set_option autoImplicit false

/-! # Base 64

Bytes as text: three bytes are four characters of an alphabet of 64. One or two bytes at the end are
filled up with zero bits, and the characters that are missing are written as equals signs. -/

namespace Floorplan.Base64

/-- The alphabet. -/
def alphabet : String := "ABCDEFGHIJKLMNOPQRSTUVWXYZabcdefghijklmnopqrstuvwxyz0123456789+/"

/-- The character of a number below 64. -/
def character (n : Nat) : Char := (alphabet.toList[n]?).getD '='

/-- The four characters of 24 bits. -/
def quartet (n : Nat) : List Char :=
  [character (n / 262144), character (n / 4096 % 64), character (n / 64 % 64), character (n % 64)]

/-- The bytes as text. -/
def encode : List UInt8 → List Char
  | [] => []
  | [a] => (quartet (a.toNat * 65536)).take 2 ++ ['=', '=']
  | [a, b] => (quartet (a.toNat * 65536 + b.toNat * 256)).take 3 ++ ['=']
  | a :: b :: c :: rest => quartet (a.toNat * 65536 + b.toNat * 256 + c.toNat) ++ encode rest

end Floorplan.Base64
