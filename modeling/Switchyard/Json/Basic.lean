import Switchyard.Json.Double

/-!
# JSON values

The dynamic values that envelopes and bus messages carry.

* Numbers are integers from `-2 ^ 63` to `2 ^ 64 - 1`, or finite doubles; the two never compare
  equal, and an integer keeps its digits through every conversion.
* An object is a list of members. The readers of this library keep them in strictly increasing
  order of their keys (`Json.Ordered`), so that two objects with the same members are equal.
-/

namespace Switchyard

/-- An integer that a JSON number holds exactly: a signed or an unsigned 64-bit one. -/
structure Integer where
  val : Int
  lower : -0x8000000000000000 ≤ val
  upper : val < 0x10000000000000000
  deriving DecidableEq

namespace Integer

/-- The integer, if it is in range. -/
def ofInt? (n : Int) : Option Integer :=
  if h : -0x8000000000000000 ≤ n ∧ n < 0x10000000000000000 then some ⟨n, h.1, h.2⟩ else none

/-- A natural number below `2 ^ 64`. -/
def ofNat (n : Nat) (h : n < 0x10000000000000000) : Integer :=
  ⟨n, by omega, by omega⟩

instance : Inhabited Integer := ⟨⟨0, by decide, by decide⟩⟩

end Integer

/-- A JSON number. -/
inductive Number where
  | integer (n : Integer)
  | double (d : Double)
  deriving DecidableEq, Inhabited

/-- A JSON value. -/
inductive Json where
  | null
  | bool (b : Bool)
  | number (n : Number)
  | string (s : String)
  | array (items : List Json)
  | object (members : List (String × Json))
  deriving Inhabited, BEq

namespace Json

/-- The members of an object. -/
abbrev Members := List (String × Json)

/-- A natural number as a JSON value; one that does not fit 64 bits counts as the largest. -/
def nat (n : Nat) : Json :=
  if h : n < 0x10000000000000000 then .number (.integer (.ofNat n h))
  else .number (.integer ⟨0xffffffffffffffff, by decide, by decide⟩)

/-- An integer as a JSON value; `null` when it is out of range. -/
def int (n : Int) : Json :=
  match Integer.ofInt? n with
  | some i => .number (.integer i)
  | none => .null

/-- Puts a member in its place by the order of keys, in place of one with the same key. -/
def insertMember (key : String) (value : Json) : Members → Members
  | [] => [(key, value)]
  | (k, v) :: rest =>
    if key < k then (key, value) :: (k, v) :: rest
    else if key = k then (key, value) :: rest
    else (k, v) :: insertMember key value rest

/-- Members in the order of their keys; of members with one key the last one counts. -/
def sortMembers (members : Members) : Members :=
  members.foldl (fun o (k, v) => insertMember k v o) []

/-- The object with these members. -/
def ofMembers (members : Members) : Json :=
  .object (sortMembers members)

/-- The member of a list with this key. -/
def lookup? (key : String) (members : Members) : Option Json :=
  (members.find? (·.1 = key)).map (·.2)

/-- A member of an object; `none` for other values. -/
def get? (key : String) : Json → Option Json
  | .object members => lookup? key members
  | _ => none

/-- The text of a string. -/
def string? : Json → Option String
  | .string s => some s
  | _ => none

/-- The items of an array. -/
def array? : Json → Option (List Json)
  | .array items => some items
  | _ => none

/-- The members of an object. -/
def object? : Json → Option Members
  | .object members => some members
  | _ => none

/-- The truth value of a boolean. -/
def bool? : Json → Option Bool
  | .bool b => some b
  | _ => none

/-- The value of an integer. -/
def int? : Json → Option Int
  | .number (.integer n) => some n.val
  | _ => none

/-- The value of an integer that is not negative. -/
def nat? (j : Json) : Option Nat :=
  match j.int? with
  | some n => if 0 ≤ n then some n.toNat else none
  | none => none

/-- Whether a value is an object. -/
def isObject : Json → Bool
  | .object _ => true
  | _ => false

/-- Keys stand in strictly increasing order. -/
def SortedKeys (members : Members) : Prop :=
  members.Pairwise fun a b => a.1 < b.1

mutual

/-- Every object in the value has its keys in strictly increasing order. -/
def Ordered : Json → Prop
  | .array items => OrderedItems items
  | .object members => SortedKeys members ∧ OrderedMembers members
  | _ => True

/-- Every value of a list is ordered. -/
def OrderedItems : List Json → Prop
  | [] => True
  | j :: rest => Ordered j ∧ OrderedItems rest

/-- The value of every member is ordered. -/
def OrderedMembers : Members → Prop
  | [] => True
  | (_, j) :: rest => Ordered j ∧ OrderedMembers rest

end

end Json
end Switchyard
