import Floorplan.Screen.Style
import Floorplan.Text.Blank
import Floorplan.Text.Width

set_option autoImplicit false

/-! # Cells and glyphs

A screen is made of rows of cells. A text is drawn as glyphs, one for each cluster; a wide glyph stands
in the first of its cells and hides the others.

There are two ways to draw. A paragraph writes glyphs, leaves out those without a width, and does not
touch the cells that wide ones hide. A line of spans is drawn span by span: each starts where the widths
of those before it end, is cut at the first glyph that does not fit, clears the cells that its glyphs
hide, and puts a glyph without a width into the cell before it. -/

namespace Floorplan.Screen

/-- What stands in one place of the screen. -/
structure Cell where
  symbol : List Char := [' ']
  style : Style := {}
  deriving DecidableEq, Repr

/-- A row of empty cells. -/
def blankRow (width : Nat) (style : Style) : List Cell := List.replicate width { style }

/-- A run of text in one style. -/
structure Span where
  text : List Char
  style : Style := {}
  deriving DecidableEq, Repr

/-- A cluster to be drawn. -/
structure Glyph where
  text : List Char
  width : Nat
  style : Style
  deriving DecidableEq, Repr

namespace Glyph

/-- Can a line break at the glyph? The zero width space is made for that, the no-break space is not. -/
def isBreak (g : Glyph) : Bool :=
  g.text = ['\u200B'] || (g.text.all Text.isBlank && g.text ≠ ['\u00A0'])

/-- The width of glyphs side by side. -/
def total : List Glyph → Nat
  | [] => 0
  | g :: gs => g.width + total gs

/-- The glyphs up to the first for which there is no room. -/
def fitting : Nat → List Glyph → List Glyph
  | _, [] => []
  | room, g :: gs => if g.width ≤ room then g :: fitting (room - g.width) gs else []

/-- The glyphs that stay when a row is cut at a limit. One that is wider than the row is left out. -/
def cut (limit : Nat) (gs : List Glyph) : List Glyph :=
  fitting limit (gs.filter fun g => g.width ≤ limit)

/-- Writes glyphs over cells from the first on. A glyph without a width leaves no trace, and what goes
beyond the last cell is lost. -/
def paint : List Cell → List Glyph → List Cell
  | cells, [] => cells
  | [], _ :: _ => []
  | cell :: cells, g :: gs =>
    if g.width = 0 then paint (cell :: cells) gs
    else
      ⟨g.text, g.style.onto cell.style⟩ ::
        (cells.take (g.width - 1) ++ paint (cells.drop (g.width - 1)) gs)

/-- Painting keeps the number of cells. -/
@[simp] theorem length_paint (cells : List Cell) (gs : List Glyph) :
    (paint cells gs).length = cells.length := by
  induction gs generalizing cells with
  | nil => cases cells <;> simp [paint]
  | cons g gs ih =>
    cases cells with
    | nil => simp [paint]
    | cons cell cells =>
      unfold paint
      split
      · exact ih _
      · simp [ih]; omega

end Glyph

/-- A glyph that is drawn, and the glyphs without a width that go into its last cell. -/
structure Group where
  glyph : Glyph
  marks : List Glyph
  deriving DecidableEq, Repr

namespace Group

/-- The glyphs without a width at the beginning, and the groups of the others. -/
def split : List Glyph → List Glyph × List Group
  | [] => ([], [])
  | g :: gs =>
    let (marks, groups) := split gs
    if g.width = 0 then (g :: marks, groups) else ([], ⟨g, marks⟩ :: groups)

/-- The groups of glyphs. Those without a width at the beginning stand before the first other one, or
alone in a cell if there is none. -/
def ofGlyphs (gs : List Glyph) : List Group :=
  match split gs with
  | ([], groups) => groups
  | (m :: marks, []) => [⟨{ m with text := m.text ++ marks.flatMap Glyph.text }, []⟩]
  | (marks, ⟨g, own⟩ :: groups) => ⟨{ g with text := marks.flatMap Glyph.text ++ g.text }, own⟩ :: groups

end Group

namespace Cell

/-- The cell with a further glyph in it. -/
def join (cell : Cell) (g : Glyph) : Cell := ⟨cell.symbol ++ g.text, g.style.onto cell.style⟩

/-- Puts glyphs into the last cell. -/
def joinLast (marks : List Glyph) : List Cell → List Cell
  | [] => []
  | [cell] => [marks.foldl join cell]
  | cell :: rest => cell :: joinLast marks rest

@[simp] theorem length_joinLast (marks : List Glyph) (cells : List Cell) :
    (joinLast marks cells).length = cells.length := by
  fun_induction joinLast marks cells with
  | case1 => rfl
  | case2 => rfl
  | case3 cell rest _ ih => simp [ih]

end Cell

namespace Span

/-- The glyphs of the span. A line feed that stands alone is not drawn. -/
def glyphs (s : Span) : List Glyph :=
  ((Text.clusters s.text).filter (· ≠ ['\n'])).map fun c => ⟨c, Text.width c, s.style⟩

/-- The width that the span takes in its line. -/
def width (s : Span) : Nat := Text.width s.text

/-- The width of spans one after the other. -/
def total : List Span → Nat
  | [] => 0
  | s :: rest => s.width + total rest

/-- Draws groups over cells from the first on, and clears the cells that wide glyphs hide. -/
def paintGroups : List Cell → List Group → List Cell
  | cells, [] => cells
  | [], _ :: _ => []
  | cell :: cells, ⟨g, marks⟩ :: groups =>
    let hidden := (cells.take (g.width - 1)).map fun _ => {}
    Cell.joinLast marks (⟨g.text, g.style.onto cell.style⟩ :: hidden) ++
      paintGroups (cells.drop (g.width - 1)) groups

@[simp] theorem length_paintGroups (cells : List Cell) (groups : List Group) :
    (paintGroups cells groups).length = cells.length := by
  induction groups generalizing cells with
  | nil => cases cells <;> simp [paintGroups]
  | cons group groups ih =>
    cases cells with
    | nil => simp [paintGroups]
    | cons cell cells => simp [paintGroups, ih]; omega

/-- Draws spans over cells, one after the other. A span without a width is left out. -/
def paint : List Cell → List Span → List Cell
  | cells, [] => cells
  | cells, s :: rest =>
    if s.width = 0 then paint cells rest
    else
      let painted := paintGroups cells (Group.ofGlyphs (Glyph.fitting cells.length s.glyphs))
      painted.take s.width ++ paint (painted.drop s.width) rest

/-- Painting keeps the number of cells. -/
@[simp] theorem length_paint (cells : List Cell) (spans : List Span) :
    (paint cells spans).length = cells.length := by
  induction spans generalizing cells with
  | nil => simp [paint]
  | cons s rest ih =>
    unfold paint
    split
    · exact ih _
    · simp [ih]; omega

end Span

/-- A row of a paragraph: glyphs over a row in the style of the area. -/
def paragraphRow (width : Nat) (base : Style) (gs : List Glyph) : List Cell :=
  Glyph.paint (blankRow width base) gs

/-- The only row of a paragraph that is not wrapped. -/
def cutRow (width : Nat) (base : Style) (spans : List Span) : List Cell :=
  paragraphRow width base (Glyph.cut width (spans.flatMap Span.glyphs))

/-- A row of a list: spans over an empty row. -/
def listRow (width : Nat) (spans : List Span) : List Cell := Span.paint (blankRow width {}) spans

/-- A stretch of neighbouring cells of one style. -/
structure Run where
  start : Nat
  length : Nat
  style : Style
  deriving DecidableEq, Repr

/-- The longest stretches of equal style in cells of which the first is at a place. -/
def runsFrom (start : Nat) : List Cell → List Run
  | [] => []
  | cell :: cells =>
    match runsFrom (start + 1) cells with
    | [] => [⟨start, 1, cell.style⟩]
    | run :: rest =>
      if run.style = cell.style then ⟨start, run.length + 1, run.style⟩ :: rest
      else ⟨start, 1, cell.style⟩ :: run :: rest

/-- The longest stretches of equal style. -/
def runs (row : List Cell) : List Run := runsFrom 0 row

end Floorplan.Screen
