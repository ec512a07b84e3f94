import Floorplan.Number.Shortest
import Floorplan.Text.Digit

set_option autoImplicit false

/-! # Numbers as a document writes them

A numeral keeps the digits of a written number, so that a document can be read before it is known
what the number stands for. It is then read as a natural number of 64 bits, or as a coordinate.

Reading a coordinate takes as many digits as fit a word for its significand, counts the rest in the
exponent, and scales by a rounded power of ten: two roundings, so that the last bit of a long decimal
may differ from that of the nearest number. Writing takes the shortest decimal. -/

namespace Floorplan.Json

/-- A written number: sign, digits before the point, digits after it (none if there is no point), and
the sign and the digits of the exponent. -/
structure Numeral where
  negative : Bool
  whole : List Nat
  fraction : List Nat := []
  exponent : Option (Bool × List Nat) := none
  deriving DecidableEq, Repr

namespace Numeral

/-- Written without point and exponent. -/
def isWhole (n : Numeral) : Bool := n.fraction.isEmpty && n.exponent.isNone

/-- The value of digits. -/
def valueOf (ds : List Nat) : Nat := ds.foldl (fun v d => v * 10 + d) 0

/-- The natural number of 64 bits that the numeral denotes. A minus sign, a point or an exponent is
refused, whatever the value. -/
def toNat? (n : Numeral) : Option Nat :=
  if n.isWhole && !n.negative && valueOf n.whole < wordLimit then some (valueOf n.whole) else none

/-- The numeral of a natural number. -/
def ofNat (n : Nat) : Numeral := ⟨false, digitsOf n, [], none⟩

/-! ## Reading a coordinate -/

/-- Takes digits while the significand fits a word; gives it with the number of digits taken. -/
def takeDigits (significand taken : Nat) : List Nat → Nat × Nat × List Nat
  | [] => (significand, taken, [])
  | d :: rest =>
    if significand * 10 + d < wordLimit then takeDigits (significand * 10 + d) (taken + 1) rest
    else (significand, taken, d :: rest)

/-- The significand of the digits and the power of ten it is to be scaled by. Whole digits beyond a
word raise the power; digits after the point lower it as far as they fit. -/
def significand (n : Numeral) : Nat × Int :=
  let (whole, _, left) := takeDigits 0 0 n.whole
  let (value, taken, _) := takeDigits whole 0 n.fraction
  (value, (left.length : Int) - taken)

/-- Exponents are kept in words of 32 bits. -/
def exponentLimit : Nat := Nat.pow 2 31

/-- A power of ten kept within the exponents of 32 bits. -/
def clampExponent (e : Int) : Int := max (-(exponentLimit : Int)) (min e (exponentLimit - 1))

/-- The number scaled by a power of ten, if it is finite. Beyond the powers of ten that are themselves
finite it is first divided by the largest of them. -/
def scaleBy (f : Binary64) (e : Int) : Nat → Option Binary64
  | 0 => some f
  | fuel + 1 =>
    if e.natAbs ≤ 308 then
      if 0 ≤ e then (Binary64.tenPow? e.natAbs).bind f.mul?
      else (Binary64.tenPow? e.natAbs).bind f.div?
    else if f.isZero then some f
    else if 0 ≤ e then none
    else do
      let p ← Binary64.tenPow? 308
      let g ← f.div? p
      scaleBy g (e + 308) fuel

/-- The number with the sign of the numeral. -/
def withSign (n : Numeral) (f : Binary64) : Binary64 := if n.negative then f.neg else f

/-- The coordinate that the numeral denotes, if it is finite. -/
def toBinary64? (n : Numeral) : Option Binary64 := do
  let (value, power) := n.significand
  match n.exponent with
  | none => return n.withSign (← scaleBy (← Binary64.ofNat? value) power 8)
  | some (down, ds) =>
    if valueOf ds < exponentLimit then
      let e : Int := if down then power - valueOf ds else power + valueOf ds
      return n.withSign (← scaleBy (← Binary64.ofNat? value) (clampExponent e) 8)
    else if value ≠ 0 ∧ !down then none
    else return n.withSign Binary64.zero

/-! ## Writing a coordinate -/

/-- Decimals with exponents from the first to the second are written without exponent. -/
def positional : Int × Int := (-5, 15)

/-- The numeral of a decimal: with a point and without an exponent in the positional range, else with
one digit before the point, which is left out if no digit follows it. -/
def ofDecimal (negative : Bool) (d : Decimal) : Numeral :=
  if positional.1 ≤ d.exponent ∧ d.exponent ≤ positional.2 then
    if d.exponent < 0 then
      ⟨negative, [0], List.replicate (d.exponent.natAbs - 1) 0 ++ d.digits, none⟩
    else
      let places := d.exponent.toNat + 1
      let padded := d.digits ++ List.replicate (places + 1 - d.digits.length) 0
      ⟨negative, padded.take places, padded.drop places, none⟩
  else
    ⟨negative, d.digits.take 1, d.digits.drop 1,
      some (d.exponent < 0, digitsOf d.exponent.natAbs)⟩

/-- The numeral of a coordinate. -/
def ofBinary64 (x : Binary64) : Numeral :=
  if x.isZero then ⟨x.negative, [0], [0], none⟩ else ofDecimal x.negative x.shortest

/-! ## Text -/

/-- The character of a digit. -/
def digitChar (d : Nat) : Char := Char.ofNat ('0'.toNat + d)

/-- The numeral as text; an exponent always has a sign. -/
def chars (n : Numeral) : List Char :=
  (if n.negative then ['-'] else []) ++ n.whole.map digitChar ++
  (if n.fraction.isEmpty then [] else '.' :: n.fraction.map digitChar) ++
  (match n.exponent with
    | none => []
    | some (down, ds) => 'e' :: (if down then '-' else '+') :: ds.map digitChar)

/-- The digits at the beginning of a text, and the text behind them. -/
def readDigits : List Char → List Nat × List Char
  | [] => ([], [])
  | c :: rest =>
    match Text.digitValue? c with
    | none => ([], c :: rest)
    | some d => let (ds, left) := readDigits rest; (d :: ds, left)

/-- Reads the digits before the point: a zero stands alone. -/
def readWhole : List Char → Option (List Nat × List Char)
  | '0' :: rest => some ([0], rest)
  | s =>
    match readDigits s with
    | ([], _) => none
    | (ds, rest) => some (ds, rest)

/-- Reads the point and the digits after it, if there is a point. -/
def readFraction : List Char → Option (List Nat × List Char)
  | '.' :: rest =>
    match readDigits rest with
    | ([], _) => none
    | (ds, left) => some (ds, left)
  | s => some ([], s)

/-- Reads the sign and the digits of an exponent behind its letter. -/
def readPower (s : List Char) : Option ((Bool × List Nat) × List Char) :=
  let (down, digits) :=
    match s with
    | '-' :: rest => (true, rest)
    | '+' :: rest => (false, rest)
    | _ => (false, s)
  match readDigits digits with
  | ([], _) => none
  | (ds, rest) => some ((down, ds), rest)

/-- Reads the exponent, if there is one. -/
def readExponent : List Char → Option (Option (Bool × List Nat) × List Char)
  | 'e' :: rest => (readPower rest).map fun (e, left) => (some e, left)
  | 'E' :: rest => (readPower rest).map fun (e, left) => (some e, left)
  | s => some (none, s)

/-- Reads the digits, the fraction and the exponent of a number whose sign is known. -/
def readUnsigned (negative : Bool) (s : List Char) : Option (Numeral × List Char) := do
  let (whole, s) ← readWhole s
  let (fraction, s) ← readFraction s
  let (exponent, s) ← readExponent s
  return (⟨negative, whole, fraction, exponent⟩, s)

/-- Reads a number from the beginning of a text. -/
def read? : List Char → Option (Numeral × List Char)
  | '-' :: rest => readUnsigned true rest
  | s => readUnsigned false s

end Numeral

end Floorplan.Json
