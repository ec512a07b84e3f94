import Floorplan.Screen.Cell

set_option autoImplicit false

/-! # Wrapping

A line that is too long goes on in further rows. It breaks after a word if it can; the blank at the
break is dropped as far as it would have fitted on the row, and what is left of it begins the next one.
A word longer than a row is cut. Blank at the start of a line stays. -/

namespace Floorplan.Screen

/-- A row that is being filled: what stands on it, the blank after that, and the word after the blank,
which may still have to move to the next row. -/
structure Filling where
  line : List Glyph := []
  gap : List Glyph := []
  word : List Glyph := []
  /-- Did the last glyph belong to a word? -/
  afterWord : Bool := false

namespace Filling

/-- The blank and the word join the row. -/
def settle (f : Filling) : Filling :=
  { f with line := f.line ++ f.gap ++ f.word, gap := [], word := [] }

/-- The glyph joins the blank or the word. -/
def add (f : Filling) (g : Glyph) : Filling :=
  if g.isBreak then { f with gap := f.gap ++ [g], afterWord := false }
  else { f with word := f.word ++ [g], afterWord := true }

/-- Is it decided that the blank and the word stay on the row? They do after the end of the word, or
when they fill a row on their own. -/
def isSettled (limit : Nat) (f : Filling) (g : Glyph) : Bool :=
  (f.afterWord && g.isBreak) ||
    (f.line.isEmpty && limit < Glyph.total f.word + Glyph.total f.gap + g.width)

/-- Is the row full, or would the word not fit on it with the glyph? -/
def isFull (limit : Nat) (f : Filling) (g : Glyph) : Bool :=
  limit ≤ Glyph.total f.line ||
    (0 < g.width && limit ≤ Glyph.total f.line + Glyph.total f.gap + Glyph.total f.word)

/-- The blank without the glyphs that fit into the room. -/
def dropFitting : Nat → List Glyph → List Glyph
  | _, [] => []
  | room, g :: gs => if g.width ≤ room then dropFitting (room - g.width) gs else g :: gs

/-- The next row, after this one is finished. -/
def nextRow (limit : Nat) (f : Filling) : Filling :=
  { f with line := [], gap := dropFitting (limit - Glyph.total f.line) f.gap }

/-- The rows that are left at the end of the line. -/
def finish (f : Filling) : List (List Glyph) :=
  (if f.line.isEmpty && f.word.isEmpty && !f.gap.isEmpty then [[]] else []) ++
    [f.line ++ f.gap ++ f.word].filter (!·.isEmpty)

/-- The rows that glyphs fill from here on. A glyph wider than a row is left out. -/
def rows (limit : Nat) : Filling → List Glyph → List (List Glyph)
  | f, [] => f.finish
  | f, g :: gs =>
    if limit < g.width then f.rows limit gs
    else
      -- First what is decided already joins the row, then the row may be full.
      let settled := if f.isSettled limit g then f.settle else f
      if settled.isFull limit g then
        let next := settled.nextRow limit
        -- Blank at the break is used up by it, unless some is left that did not fit.
        settled.line :: (if g.isBreak && next.gap.isEmpty then next else next.add g).rows limit gs
      else (settled.add g).rows limit gs

end Filling

/-- The rows of a line; there is at least one. -/
def wrapped (limit : Nat) (gs : List Glyph) : List (List Glyph) :=
  match ({} : Filling).rows limit gs with
  | [] => [[]]
  | rows => rows

end Floorplan.Screen
