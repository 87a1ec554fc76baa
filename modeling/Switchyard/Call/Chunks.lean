import Switchyard.Text.Utf8

/-!
# Cutting text into chunks

`splitChunks` cuts a text into pieces of a limited number of bytes, between characters. Each piece
but the last is as long as the limit allows; a character that is longer than the limit is a piece of
its own.
-/

namespace Switchyard.Call

/-- The largest chunk of a reply, in bytes. -/
def chunkLimit : Nat := 512 * 1024

/-- Moves characters onto the reversed `acc` while their bytes fit the room that is left. -/
def takeFitting (room : Nat) (acc : List Char) : List Char → List Char × List Char
  | [] => (acc, [])
  | c :: rest =>
    if c.utf8Size ≤ room then takeFitting (room - c.utf8Size) (c :: acc) rest else (acc, c :: rest)

theorem length_takeFitting_le (room : Nat) (acc cs : List Char) :
    (takeFitting room acc cs).2.length ≤ cs.length := by
  induction cs generalizing room acc with
  | nil => simp [takeFitting]
  | cons c rest ih =>
    unfold takeFitting
    split
    · exact Nat.le_succ_of_le (ih _ _)
    · simp

/-- The longest piece from the front of a text that begins with `c`, reversed, and the rest. A
first character that does not fit is taken all the same. -/
def cut (limit : Nat) (c : Char) (rest : List Char) : List Char × List Char :=
  takeFitting (limit - c.utf8Size) [c] rest

/-- The pieces of a text of `size` bytes. -/
def pieces (limit size : Nat) : List Char → List String
  | [] => [""]
  | c :: rest =>
    if size ≤ limit then [String.ofList (c :: rest)]
    else
      let piece := String.ofList (cut limit c rest).1.reverse
      piece :: pieces limit (size - piece.utf8ByteSize) (cut limit c rest).2
termination_by cs => cs.length
decreasing_by
  have := length_takeFitting_le (limit - c.utf8Size) [c] rest
  simp only [cut, List.length_cons]
  omega

/-- Cuts a text into pieces of at most `limit` bytes. -/
def splitChunks (text : String) (limit : Nat) : List String :=
  pieces limit text.utf8ByteSize text.toList

end Switchyard.Call
