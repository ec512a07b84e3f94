set_option autoImplicit false

/-! # Lines of a text

A line feed ends a line, and a carriage return directly before it belongs to the ending. What follows
the last line feed is a line of its own unless it is empty. -/

namespace Floorplan.Text

/-- Puts a character in front of the first line. -/
def consLine (c : Char) : List (List Char) → List (List Char)
  | [] => [[c]]
  | line :: rest => (c :: line) :: rest

/-- The lines, without their endings. -/
def lines : List Char → List (List Char)
  | [] => []
  | '\n' :: rest => [] :: lines rest
  | '\r' :: '\n' :: rest => [] :: lines rest
  | c :: rest => consLine c (lines rest)

/-- The first line. -/
def firstLine (s : List Char) : List Char := (lines s).headD []

end Floorplan.Text
