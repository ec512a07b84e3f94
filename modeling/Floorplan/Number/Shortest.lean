import Floorplan.Number.Binary64

set_option autoImplicit false

/-! # The shortest decimal of a coordinate

A coordinate is written with the fewest decimal digits that read back to it. The decimals that read
back are those in the interval between the midpoints to its two neighbours, the ends included exactly
if the significand is even. For one digit, two digits and so on the two decimals next to the number are
tried; the first that lies in the interval wins, of two such the nearer, and on a tie the even one. -/

namespace Floorplan

/-- The positive number `d₁.d₂d₃… · 10 ^ exponent`, by its digits `d₁, d₂, d₃, …`. -/
structure Decimal where
  digits : List Nat
  exponent : Int
  deriving DecidableEq, Repr

/-- The decimal digits of a number, the most significant first. -/
def digitsOf (n : Nat) : List Nat := (Nat.toDigits 10 n).map fun c => c.toNat - '0'.toNat

namespace Binary64

/-- A quarter of a unit: the measure in which midpoints between neighbours are whole. -/
def quartersPerOne : Nat := 4 * unitsPerOne

/-- Four times the number, and the ends of the interval of what reads back to it, in quarter units. -/
def interval (x : Binary64) : Nat × Nat × Nat :=
  let value := 4 * x.magnitude
  let above := 2 * Nat.pow 2 x.scale
  let below := if x.significand = Nat.pow 2 52 ∧ 0 < x.scale then Nat.pow 2 x.scale else above
  (value - below, value, value + above)

/-- The exponent of the first decimal digit of a positive number. -/
def leadingExponent (x : Binary64) : Int :=
  (digitsOf (x.magnitude * Nat.pow 10 324 / unitsPerOne)).length - 1 - 324

/-- The nearest of the two multiples of `10 ^ k` next to the number that reads back to it, as how
many times `10 ^ k`. -/
def onGrid? (x : Binary64) (k : Int) : Option Nat :=
  let up := Nat.pow 10 (-k).toNat
  let grid := quartersPerOne * Nat.pow 10 k.toNat
  let (low, value, high) := x.interval
  let inside (n : Nat) : Bool :=
    if x.significand % 2 = 0 then low * up ≤ n * grid && n * grid ≤ high * up
    else low * up < n * grid && n * grid < high * up
  let n := value * up / grid
  let r := value * up % grid
  match inside n, inside (n + 1) with
  | true, true =>
    if 2 * r < grid then some n else if 2 * r > grid then some (n + 1)
    else if n % 2 = 0 then some n else some (n + 1)
  | true, false => some n
  | false, true => some (n + 1)
  | false, false => none

/-- The digits without the zeros at their end. -/
def dropZeros (ds : List Nat) : List Nat := (ds.reverse.dropWhile (· = 0)).reverse

/-- The shortest decimal with at least `count` digits, trying at most `tries` counts. -/
def shortestFrom (x : Binary64) : Nat → Nat → Decimal
  | 0, _ => ⟨[], 0⟩
  | tries + 1, count =>
    let k := x.leadingExponent - (count - 1 : Int)
    match x.onGrid? k with
    | some n =>
      let ds := digitsOf n
      ⟨dropZeros ds, k + ds.length - 1⟩
    | none => x.shortestFrom tries (count + 1)

/-- The shortest decimal that reads back to the size of a number other than zero. -/
def shortest (x : Binary64) : Decimal := x.shortestFrom 17 1

end Binary64

end Floorplan
