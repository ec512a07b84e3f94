import Floorplan.Text.CodePoints

set_option autoImplicit false

/-! # White space

The 25 code points of the Unicode property White_Space are what separates words in a request and what
is stripped from the ends of a name. The zero width space is not among them. -/

namespace Floorplan.Text

/-- The property White_Space. -/
def blankTable : CodePoints :=
  [(0x09, 0x0D), (0x20, 0x20), (0x85, 0x85), (0xA0, 0xA0), (0x1680, 0x1680), (0x2000, 0x200A),
   (0x2028, 0x2029), (0x202F, 0x202F), (0x205F, 0x205F), (0x3000, 0x3000)]

/-- Is the character white space? -/
def isBlank (c : Char) : Bool := blankTable.contains c.toNat

/-- The text without the white space at its start. -/
def trimLeft (s : List Char) : List Char := s.dropWhile isBlank

/-- The text without the white space at its end. -/
def trimRight (s : List Char) : List Char := (s.reverse.dropWhile isBlank).reverse

/-- The text without the white space at both ends. -/
def trimChars (s : List Char) : List Char := trimRight (trimLeft s)

/-- The text without the white space at both ends. -/
def trim (s : String) : String := String.ofList (trimChars s.toList)

/-- Is there nothing but white space? -/
def allBlank (s : String) : Bool := s.toList.all isBlank

/-- Some text has neither white space at its start nor at its end. -/
structure Trimmed (s : List Char) : Prop where
  head : ∀ c ∈ s.head?, isBlank c = false
  last : ∀ c ∈ s.getLast?, isBlank c = false

end Floorplan.Text
