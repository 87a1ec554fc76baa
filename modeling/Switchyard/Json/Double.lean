/-!
# Binary64 numbers

Finite 64-bit floating-point numbers, held as their bit patterns, with exact arithmetic on natural
numbers in place of machine operations.

* A `Double` with bits `s | E | F` has the value `± mantissa * 2 ^ scale`.
* `ofRatio?` rounds a quotient of natural numbers to the nearest double, ties to the even mantissa.
* `shortest` finds the fewest decimal digits that read back as the same double, and among those the
  nearest to it.
* `render` writes these digits: positionally while the leading digit stands between `10 ^ -5` and
  `10 ^ 15`, always with a fraction, and otherwise with a signed exponent.
-/

namespace Switchyard

/-- A finite 64-bit floating-point number. -/
structure Double where
  /-- The bit pattern: sign, eleven exponent bits, fifty-two fraction bits. -/
  bits : UInt64
  /-- The exponent bits are not all set: neither infinite nor a NaN. -/
  finite : bits.toNat / 0x10000000000000 % 2048 < 2047
  deriving DecidableEq

namespace Double

/-- The double with these bits, if they spell a finite number. -/
def ofBits? (bits : UInt64) : Option Double :=
  if h : bits.toNat / 0x10000000000000 % 2048 < 2047 then some ⟨bits, h⟩ else none

instance : Inhabited Double := ⟨⟨0, by decide⟩⟩

/-- Positive zero. -/
def zero : Double := ⟨0, by decide⟩

/-- Whether the sign bit is set. -/
def negative (d : Double) : Bool :=
  0x8000000000000000 ≤ d.bits.toNat

/-- The eleven exponent bits. -/
def exponentBits (d : Double) : Nat :=
  d.bits.toNat / 0x10000000000000 % 2048

/-- The integer mantissa; the hidden bit is set unless the number is subnormal. -/
def mantissa (d : Double) : Nat :=
  let fraction := d.bits.toNat % 0x10000000000000
  if d.exponentBits = 0 then fraction else fraction + 0x10000000000000

/-- The exponent of two that the mantissa is scaled by. -/
def scale (d : Double) : Int :=
  (max d.exponentBits 1 : Int) - 1075

/-- The magnitude as a fraction of natural numbers. -/
def magnitude (d : Double) : Nat × Nat :=
  if 0 ≤ d.scale then (d.mantissa * Nat.pow 2 d.scale.toNat, 1)
  else (d.mantissa, Nat.pow 2 (-d.scale).toNat)

/-- The same magnitude with the other sign bit. -/
def negate (d : Double) : Double :=
  match ofBits? (UInt64.ofNat ((d.bits.toNat + 0x8000000000000000) % 0x10000000000000000)) with
  | some e => e
  | none => d

/-! ### Rounding -/

/-- The natural number nearest to `num / den`, a half going to the even one. -/
def roundDiv (num den : Nat) : Nat :=
  let q := num / den
  let r := num % den
  if 2 * r < den then q
  else if 2 * r > den then q + 1
  else if q % 2 = 0 then q else q + 1

/-- The exponent of two at which `num / den` has a 53-bit mantissa, or the least one there is. -/
def scaleFor (num den : Nat) : Int :=
  let guess : Int := (Nat.log2 num : Int) - Nat.log2 den - 52
  let fits : Bool :=
    if 0 ≤ guess then den * Nat.pow 2 (52 + guess.toNat) ≤ num
    else den * 0x10000000000000 ≤ num * Nat.pow 2 (-guess).toNat
  max (if fits then guess else guess - 1) (-1074)

/-- The double nearest to the positive quotient `num / den`, ties to the even mantissa; `none` when
it is too large. A mantissa that rounds up to `2 ^ 53` carries into the exponent bits. -/
def ofRatio? (num den : Nat) : Option Double :=
  if num = 0 ∨ den = 0 then some zero
  else
    let q := scaleFor num den
    let m :=
      if 0 ≤ q then roundDiv num (den * Nat.pow 2 q.toNat)
      else roundDiv (num * Nat.pow 2 (-q).toNat) den
    let bits := (q + 1074).toNat * 0x10000000000000 + m
    if bits < 2047 * 0x10000000000000 then ofBits? (UInt64.ofNat bits) else none

/-- The double nearest to a natural number. -/
def ofNat? (n : Nat) : Option Double :=
  ofRatio? n 1

/-- The product of two magnitudes, rounded; `none` when it overflows. -/
def times? (a b : Double) : Option Double :=
  let (n, d) := a.magnitude
  let (n', d') := b.magnitude
  ofRatio? (n * n') (d * d')

/-- The quotient of two magnitudes, rounded; `none` when it overflows. -/
def dividedBy? (a b : Double) : Option Double :=
  let (n, d) := a.magnitude
  let (n', d') := b.magnitude
  ofRatio? (n * d') (d * n')

/-! ### Shortest decimal form -/

/-- A decimal `digits * 10 ^ exponent`. -/
structure Decimal where
  digits : Nat
  exponent : Int
  deriving DecidableEq

/-- Twice the lowest and twice the highest magnitude that round to this double, and whether these
ends do so themselves, over the common denominator that is given last. -/
def interval (d : Double) : (Nat × Nat) × Bool × Nat :=
  let m := d.mantissa
  let below := if m = 0x10000000000000 ∧ 1 < d.exponentBits then 4 * m - 1 else 4 * m - 2
  let above := 4 * m + 2
  let closed : Bool := m % 2 = 0
  if 0 ≤ d.scale then
    ((below * Nat.pow 2 d.scale.toNat, above * Nat.pow 2 d.scale.toNat), closed, 4)
  else ((below, above), closed, 4 * Nat.pow 2 (-d.scale).toNat)

/-- The power of ten of the leading decimal digit of `num / den`, found by search from an estimate
that is at most one off. -/
def leadingExponent (num den : Nat) : Int :=
  let guess : Int := ((Nat.log2 num : Int) - Nat.log2 den) * 30103 / 100000 - 1
  adjust 4 guess
where
  /-- Whether `10 ^ e` is at most the number. -/
  reaches (e : Int) : Bool :=
    if 0 ≤ e then den * Nat.pow 10 e.toNat ≤ num else den ≤ num * Nat.pow 10 (-e).toNat
  /-- Raises the exponent while the next power is still reached. -/
  adjust : Nat → Int → Int
    | 0, e => e
    | k + 1, e => if reaches (e + 1) then adjust k (e + 1) else e

/-- The nearer of the number's two neighbours among the multiples of `10 ^ k` that round to the
number, if one does. -/
def onGrid? (d : Double) (k : Int) : Option Nat :=
  let ((low, high), closed, den) := d.interval
  let m := 4 * d.mantissa * (if 0 ≤ d.scale then Nat.pow 2 d.scale.toNat else 1)
  let up := if 0 ≤ k then 1 else Nat.pow 10 (-k).toNat
  let unit := if 0 ≤ k then den * Nat.pow 10 k.toNat else den
  let inside (n : Nat) : Bool :=
    let v := n * unit
    if closed then low * up ≤ v && v ≤ high * up else low * up < v && v < high * up
  let floor := m * up / unit
  let rest := m * up % unit
  if rest = 0 then some floor
  else
    match inside floor, inside (floor + 1) with
    | true, true =>
      if 2 * rest < unit then some floor
      else if 2 * rest > unit then some (floor + 1)
      else if floor % 2 = 0 then some floor else some (floor + 1)
    | true, false => some floor
    | false, true => some (floor + 1)
    | false, false => none

/-- Moves trailing zeros from the digits into the exponent. -/
def Decimal.trim : (fuel : Nat) → Decimal → Decimal
  | 0, x => x
  | fuel + 1, x =>
    if x.digits ≠ 0 ∧ x.digits % 10 = 0 then trim fuel ⟨x.digits / 10, x.exponent + 1⟩ else x

/-- The decimal of fewest digits that reads back as this double, the nearest of those. -/
def shortest (d : Double) : Decimal :=
  if d.mantissa = 0 then ⟨0, 0⟩
  else
    let (num, den) := d.magnitude
    let lead := leadingExponent num den
    search d lead 17 0
where
  /-- Tries grids of one more digit each time. -/
  search (d : Double) (lead : Int) : (fuel : Nat) → (digits : Nat) → Decimal
    | 0, _ => ⟨0, 0⟩
    | fuel + 1, digits =>
      match d.onGrid? (lead - digits) with
      | some n => if n = 0 then search d lead fuel (digits + 1)
        else Decimal.trim 400 ⟨n, lead - digits⟩
      | none => search d lead fuel (digits + 1)

/-- The exponents of ten from which and up to which a number is written positionally. -/
def positional (e : Int) : Bool :=
  -5 ≤ e ∧ e < 16

/-- Writes a double: positionally with a fraction, or as digits and a signed exponent. -/
def render (d : Double) : String :=
  let x := d.shortest
  let ds := (toString x.digits).toList
  let e : Int := x.exponent + ds.length - 1
  let body : List Char :=
    if x.digits = 0 then ['0', '.', '0']
    else if positional e then
      if e < 0 then ['0', '.'] ++ List.replicate (-e - 1).toNat '0' ++ ds
      else
        let whole := e.toNat + 1
        if ds.length ≤ whole then
          ds ++ List.replicate (whole - ds.length) '0' ++ ['.', '0']
        else ds.take whole ++ '.' :: ds.drop whole
    else
      let mark := if e < 0 then ['e', '-'] else ['e', '+']
      let tail := ds.drop 1
      ds.take 1 ++ (if tail.isEmpty then [] else '.' :: tail) ++ mark ++
        (toString e.natAbs).toList
  String.ofList (if d.negative then '-' :: body else body)

end Double
end Switchyard
