set_option autoImplicit false

/-! # Coordinates as binary numbers of 64 bits

Coordinates on the layout grid are finite floating-point numbers with a significand of 53 bits. They
are kept as exact integers: a sign, a significand and a power of two, so that every operation is exact
arithmetic on natural numbers followed by one rounding, to the nearest number and on a tie to the even
significand. A result beyond the largest finite number does not exist.

Two numbers are compared by value: the zeros of both signs are equal, though they are written
differently. -/

namespace Floorplan

/-- The smallest positive coordinate is one part in this many. -/
def unitsPerOne : Nat := Nat.pow 2 1074

/-- Significands and scales that denote a finite number, each number in one way. -/
def IsCanonical (significand scale : Nat) : Prop :=
  significand < Nat.pow 2 53 ∧ scale ≤ 2045 ∧ (scale = 0 ∨ Nat.pow 2 52 ≤ significand)

instance (significand scale : Nat) : Decidable (IsCanonical significand scale) := by
  unfold IsCanonical; infer_instance

/-- The number `± significand · 2 ^ scale` in units of the smallest positive number. -/
structure Binary64 where
  negative : Bool
  significand : Nat
  scale : Nat
  canonical : IsCanonical significand scale := by decide
  deriving DecidableEq

namespace Binary64

/-- The size of the number, in units. -/
def magnitude (x : Binary64) : Nat := x.significand * Nat.pow 2 x.scale

/-- Is it one of the two zeros? -/
def isZero (x : Binary64) : Bool := x.significand = 0

/-- Equality by value. -/
instance : BEq Binary64 where
  beq x y := (x.isZero && y.isZero) ||
    (x.negative = y.negative && x.significand = y.significand && x.scale = y.scale)

/-- Nothing, with a plus sign. -/
def zero : Binary64 := ⟨false, 0, 0, by decide⟩

/-- The number with these parts, if they denote one. -/
def ofParts? (negative : Bool) (significand scale : Nat) : Option Binary64 :=
  if h : IsCanonical significand scale then some ⟨negative, significand, scale, h⟩ else none

/-- The quotient rounded to the nearest natural number, on a tie to the even one. -/
def roundDiv (num den : Nat) : Nat :=
  let q := num / den
  let r := num % den
  if 2 * r < den then q
  else if 2 * r > den then q + 1
  else if q % 2 = 0 then q else q + 1

/-- The number nearest to `num / den` units, if it is finite. -/
def ofUnits? (negative : Bool) (num den : Nat) : Option Binary64 :=
  let scale := Nat.log2 (num / den) - 52
  let significand := roundDiv num (den * Nat.pow 2 scale)
  if significand = Nat.pow 2 53 then ofParts? negative (Nat.pow 2 52) (scale + 1)
  else ofParts? negative significand scale

/-- The number nearest to `num / den`, if it is finite. -/
def ofRatio? (negative : Bool) (num den : Nat) : Option Binary64 :=
  ofUnits? negative (num * unitsPerOne) den

/-- The number nearest to a natural number, if it is finite. -/
def ofNat? (n : Nat) : Option Binary64 := ofRatio? false n 1

/-- The same size with the other sign. -/
def neg (x : Binary64) : Binary64 := { x with negative := !x.negative }

/-- The rounded product. -/
def mul? (x y : Binary64) : Option Binary64 :=
  ofUnits? (x.negative != y.negative) (x.magnitude * y.magnitude) unitsPerOne

/-- The rounded quotient by a number other than zero. -/
def div? (x y : Binary64) : Option Binary64 :=
  ofUnits? (x.negative != y.negative) (x.magnitude * unitsPerOne) y.magnitude

/-- The size with its sign, in units. -/
def signed (x : Binary64) : Int := if x.negative then -(x.magnitude : Int) else x.magnitude

/-- The rounded sum. A sum of nothing is negative only if both numbers are. -/
def add? (x y : Binary64) : Option Binary64 :=
  let sum := x.signed + y.signed
  ofUnits? (if sum = 0 then x.negative && y.negative else sum < 0) sum.natAbs 1

/-- The power of ten, rounded. -/
def tenPow? (n : Nat) : Option Binary64 := ofNat? (Nat.pow 10 n)

end Binary64

end Floorplan
