import Switchyard.Json.Reader
import Switchyard.Proofs.Json.Printer
import Switchyard.Proofs.Text.Utf8

/-!
# Switchyard.Proofs.Json.Spelling

**The text of a value, as the bytes that follow from the value alone.** The printer puts a value
behind the text so far; what it adds does not depend on that text (`encode_write`), and is given by
recursion on the value as `spelling`, with the rest of a list or of an object after its first entry
as `spellingItems` and `spellingMembers`.

A list is spelled with its first item apart, because that one has no comma in front of it; the same
holds of members. So whatever is read from a text is read from `spellingItems` or `spellingMembers`
after its first entry, and those are what inductions are about.
-/

namespace Switchyard

namespace Json

/-- A string in quotation marks, after the first of them. The reader of strings begins there. -/
def quotedTail (s : String) : Octets :=
  Utf8.encodeChars (s.toList.flatMap escape) ++ [0x22]

/-- The text of a number. -/
def numeral : Number → Octets
  | .integer n => Utf8.encode (toString n.val)
  | .double d => Utf8.encode d.render

mutual

/-- The text of a value, without blanks, and with the members in the order in which they stand. -/
def spelling : Json → Octets
  | .null => ascii "null"
  | .bool true => ascii "true"
  | .bool false => ascii "false"
  | .number n => numeral n
  | .string s => 0x22 :: quotedTail s
  | .array [] => [0x5B, 0x5D]
  | .array (j :: rest) => 0x5B :: (spelling j ++ spellingItems rest)
  | .object [] => [0x7B, 0x7D]
  | .object ((key, j) :: rest) =>
    0x7B :: 0x22 :: (quotedTail key ++ 0x3A :: (spelling j ++ spellingMembers rest))

/-- The items after the first, each behind its comma, and the closing bracket. -/
def spellingItems : List Json → Octets
  | [] => [0x5D]
  | j :: rest => 0x2C :: (spelling j ++ spellingItems rest)

/-- The members after the first, each behind its comma, and the closing brace. -/
def spellingMembers : Members → Octets
  | [] => [0x7D]
  | (key, j) :: rest =>
    0x2C :: 0x22 :: (quotedTail key ++ 0x3A :: (spelling j ++ spellingMembers rest))

end

/-! ### The printer writes it -/

theorem encode_writeString (out s : String) :
    Utf8.encode (writeString out s) = Utf8.encode out ++ 0x22 :: quotedTail s := by
  have hfold (cs : List Char) (out : String) :
      (cs.foldl writeChar out).toList = out.toList ++ cs.flatMap escape := by
    induction cs generalizing out with
    | nil => simp
    | cons c cs ih =>
        rw [List.foldl_cons, ih, writeChar, toList_pushes, List.flatMap_cons, List.append_assoc]
  have hmark : String.utf8EncodeChar '"' = [0x22] := by decide
  unfold writeString
  rw [Utf8.encode_push, hmark]
  unfold Utf8.encode
  rw [hfold, String.toList_push]
  simp [quotedTail, hmark]

theorem encode_writeNumber (out : String) (n : Number) :
    Utf8.encode (writeNumber out n) = Utf8.encode out ++ numeral n := by
  cases n with
  | integer n => exact Utf8.encode_append _ _
  | double d => exact Utf8.encode_append _ _

mutual

/-- The printer adds the text of the value to the text so far. By recursion over the value with its
items and members, as the printer goes. -/
theorem encode_write (out : String) :
    (j : Json) → Utf8.encode (write out j) = Utf8.encode out ++ spelling j
  | .null => Utf8.encode_append _ _
  | .bool true => Utf8.encode_append _ _
  | .bool false => Utf8.encode_append _ _
  | .number n => encode_writeNumber out n
  | .string s => encode_writeString out s
  | .array [] => Utf8.encode_append _ _
  | .array (j :: rest) => by
    rw [write, encode_writeItems, encode_write, Utf8.encode_push, spelling]
    simp only [List.append_assoc]
    rfl
  | .object [] => Utf8.encode_append _ _
  | .object ((key, j) :: rest) => by
    rw [write, encode_writeMembers, encode_write, Utf8.encode_push, encode_writeString,
      Utf8.encode_push, spelling]
    simp only [List.append_assoc]
    rfl

theorem encode_writeItems (out : String) :
    (items : List Json) →
      Utf8.encode (writeItems out items) = Utf8.encode out ++ spellingItems items
  | [] => Utf8.encode_push _ _
  | j :: rest => by
    rw [writeItems, encode_writeItems, encode_write, Utf8.encode_push, spellingItems]
    simp only [List.append_assoc]
    rfl

theorem encode_writeMembers (out : String) :
    (members : Members) →
      Utf8.encode (writeMembers out members) = Utf8.encode out ++ spellingMembers members
  | [] => Utf8.encode_push _ _
  | (key, j) :: rest => by
    rw [writeMembers, encode_writeMembers, encode_write, Utf8.encode_push, encode_writeString,
      Utf8.encode_push, spellingMembers]
    simp only [List.append_assoc]
    rfl

end

/-- The bytes of a printed value. -/
theorem encode_render (j : Json) : Utf8.encode j.render = spelling j :=
  encode_write "" j

end Json
end Switchyard
