import Floorplan.Screen.Cell
import Floorplan.Text.Lines

set_option autoImplicit false

/-! # Frames

A frame is a bordered area with a title in its upper edge. Its right edge can carry a scrollbar. -/

namespace Floorplan.Screen

/-- A bordered area. -/
structure Frame where
  width : Nat
  height : Nat
  title : String := ""
  /-- The style of the whole area. -/
  base : Style := {}
  /-- The style of the border, over that of the area. -/
  border : Style := {}
  /-- What stands in the right edge between the corners, if it is not the plain border. -/
  rightEdge : List Char := []

namespace Frame

/-- The width between the edges. -/
def innerWidth (f : Frame) : Nat := f.width - 2

/-- The height between the edges. -/
def innerHeight (f : Frame) : Nat := f.height - 2

/-- A cell of the border. -/
def edge (f : Frame) (c : Char) : Cell := ⟨[c], f.border.onto f.base⟩

/-- The upper edge with the title. The title has as much room as it is wide; its line feeds are left
out. -/
def top (f : Frame) : List Cell :=
  let bar := List.replicate f.innerWidth (f.edge '─')
  let spans := (Text.lines f.title.toList).map fun line => ({ text := line } : Span)
  let room := Span.total spans
  f.edge '┌' :: (Span.paint (bar.take room) spans ++ bar.drop room) ++ [f.edge '┐']

/-- The lower edge. -/
def bottom (f : Frame) : List Cell :=
  f.edge '└' :: List.replicate f.innerWidth (f.edge '─') ++ [f.edge '┘']

/-- The inner rows between the edges, of which those beyond `rows` are empty. -/
def middle (f : Frame) (rows : List (List Cell)) : List (List Cell) :=
  (List.range f.innerHeight).map fun i =>
    f.edge '│' :: rows.getD i (blankRow f.innerWidth f.base) ++ [f.edge (f.rightEdge.getD i '│')]

/-- The frame around rows. -/
def draw (f : Frame) (rows : List (List Cell)) : List (List Cell) :=
  f.top :: f.middle rows ++ [f.bottom]

/-- A frame is as high as it says. -/
theorem length_draw (f : Frame) (rows : List (List Cell)) (h : 2 ≤ f.height) :
    (f.draw rows).length = f.height := by
  simp only [draw, middle, innerHeight, List.length_append, List.length_cons, List.length_map,
    List.length_range, List.length_nil]
  omega

theorem length_top (f : Frame) (h : 2 ≤ f.width) : f.top.length = f.width := by
  simp only [top, innerWidth, List.length_append, List.length_cons, Span.length_paint,
    List.length_take, List.length_drop, List.length_replicate, List.length_nil]
  omega

/-- Every row is as wide as the frame says, if the rows inside fill it. -/
theorem length_of_mem_draw {f : Frame} {rows : List (List Cell)} (h : 2 ≤ f.width)
    (hrows : ∀ r ∈ rows, r.length = f.innerWidth) {row : List Cell} (hr : row ∈ f.draw rows) :
    row.length = f.width := by
  simp only [draw, List.mem_append, List.mem_cons, List.not_mem_nil, or_false] at hr
  rcases hr with (rfl | hr) | rfl
  · exact f.length_top h
  · simp only [middle, List.mem_map] at hr
    obtain ⟨i, -, rfl⟩ := hr
    have hinner : (rows.getD i (blankRow f.innerWidth f.base)).length = f.innerWidth := by
      rw [List.getD_eq_getElem?_getD]
      cases hi : rows[i]? with
      | none => simp [blankRow]
      | some r => exact hrows r (List.mem_of_getElem? hi)
    simp only [List.length_append, List.length_cons, List.length_nil, hinner]
    unfold innerWidth
    omega
  · simp only [bottom, innerWidth, List.length_append, List.length_cons, List.length_replicate,
      List.length_nil]
    omega

end Frame

/-- A scrollbar with arrows at its ends, for a number of rows of which the one at a place is selected.
The thumb stands for the part that is in view when the selected row is its first; its ends are rounded
to the nearest cell. -/
def scrollbar (height count selected : Nat) : List Char :=
  let track := height - 2
  let last := count - 1
  let span := last + height
  let place (row : Nat) : Nat := (2 * row * track + span) / (2 * span)
  let first := min (place (min selected last)) (track - 1)
  let thumb := max 1 (min (place (min selected last + height)) track - first)
  '↑' :: List.replicate first '║' ++ List.replicate thumb '█' ++
    List.replicate (track - first - thumb) '║' ++ ['↓']

end Floorplan.Screen
