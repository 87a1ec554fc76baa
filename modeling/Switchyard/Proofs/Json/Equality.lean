import Switchyard.Json.Reader

/-!
# Switchyard.Proofs.Json.Equality

Equality of JSON values can be decided, and so what a fixed text spells can be evaluated. The
equality runs over the value as the printer does: a value, the items of an array and the members of
an object are compared by one function each.

The three functions are structural, so that `decide` can run them on whatever a fixed text spells,
and with them every statement that is decided by comparing values.
-/

namespace Switchyard.Json

mutual

/-- Whether two values are equal. Values of different kinds are not; otherwise their parts are
compared. -/
def decideEq : (a b : Json) → Decidable (a = b)
  | .null, b => match b with
    | .null => isTrue rfl
    | .bool _ | .number _ | .string _ | .array _ | .object _ => isFalse nofun
  | .bool x, b => match b with
    | .bool y => decidable_of_iff (x = y) (by simp)
    | .null | .number _ | .string _ | .array _ | .object _ => isFalse nofun
  | .number x, b => match b with
    | .number y => decidable_of_iff (x = y) (by simp)
    | .null | .bool _ | .string _ | .array _ | .object _ => isFalse nofun
  | .string x, b => match b with
    | .string y => decidable_of_iff (x = y) (by simp)
    | .null | .bool _ | .number _ | .array _ | .object _ => isFalse nofun
  | .array xs, b => match b with
    | .array ys =>
      have := decideEqItems xs ys
      decidable_of_iff (xs = ys) (by simp)
    | .null | .bool _ | .number _ | .string _ | .object _ => isFalse nofun
  | .object xs, b => match b with
    | .object ys =>
      have := decideEqMembers xs ys
      decidable_of_iff (xs = ys) (by simp)
    | .null | .bool _ | .number _ | .string _ | .array _ => isFalse nofun

/-- Whether two lists of items are equal. -/
def decideEqItems : (xs ys : List Json) → Decidable (xs = ys)
  | [], ys => match ys with
    | [] => isTrue rfl
    | _ :: _ => isFalse nofun
  | x :: xs, ys => match ys with
    | [] => isFalse nofun
    | y :: ys =>
      have := decideEq x y
      have := decideEqItems xs ys
      decidable_of_iff (x = y ∧ xs = ys) (by simp)

/-- Whether two lists of members are equal. -/
def decideEqMembers : (xs ys : List (String × Json)) → Decidable (xs = ys)
  | [], ys => match ys with
    | [] => isTrue rfl
    | _ :: _ => isFalse nofun
  | (k, x) :: xs, ys => match ys with
    | [] => isFalse nofun
    | (l, y) :: ys =>
      have := decideEq x y
      have := decideEqMembers xs ys
      decidable_of_iff ((k = l ∧ x = y) ∧ xs = ys) (by simp)

end

instance : DecidableEq Json := decideEq

theorem parse?_eq_some_iff {s : Octets} {j : Json} : parse? s = some j ↔ parse s = .ok j := by
  unfold parse?
  cases parse s with
  | error f => exact iff_of_false nofun nofun
  | ok k => simp [Except.toOption]

end Switchyard.Json
