import Floorplan.Screen.Dashboard

set_option autoImplicit false

/-! # Where the transcript stands on the screen

The transcript has the rows between the heading and the typed line, in the right half of the screen. On a
screen that is large enough for all panels, what stands in those cells is the transcript as it is drawn on
its own, with a border around it (`App.getElem?_draw`). -/

namespace Floorplan

namespace Screen

/-- What stands on the right of two pictures that are beside each other. -/
theorem getElem?_beside {left right : List (List Cell)} {width j : Nat}
    (hwidth : ∀ row ∈ left, row.length = width) (hj : j < left.length) :
    ((beside left right)[j]?).map (·.drop width) = right[j]? := by
  have hrow : (left[j]).length = width := hwidth _ (List.getElem_mem hj)
  rw [beside, List.getElem?_zipWith, List.getElem?_eq_getElem hj]
  cases right[j]? with
  | none => rfl
  | some row => exact congrArg some (List.drop_left' hrow)

/-- A row in a frame, between the edges. -/
theorem Frame.getElem?_draw {f : Frame} {rows : List (List Cell)} {row : List Cell} {i : Nat}
    (hi : i < f.innerHeight) (hrow : rows[i]? = some row) :
    (f.draw rows)[i + 1]? = some (f.edge '│' :: row ++ [f.edge (f.rightEdge.getD i '│')]) := by
  have hmiddle : i < (f.middle rows).length := by
    rwa [middle, List.length_map, List.length_range]
  rw [draw, List.cons_append, List.getElem?_cons_succ, List.getElem?_append_left hmiddle, middle,
    List.getElem?_map, List.getElem?_range hi, Option.map_some, List.getD_eq_getElem?_getD, hrow,
    Option.getD_some]

theorem length_listRow (width : Nat) (spans : List Span) : (listRow width spans).length = width := by
  rw [listRow, Span.length_paint, blankRow, List.length_replicate]

/-- A row of the transcript between the edges of its panel. -/
def panelLine (width : Nat) (row : List Glyph) : List Cell :=
  let f : Frame := { width, height := 0 }
  f.edge '│' :: paragraphRow f.innerWidth f.base row ++ [f.edge '│']

end Screen

open Screen

namespace App

variable {σ : Type}

/-- Where the transcript begins in a row of the screen. -/
def chatStart (width : Nat) : Nat := (width + 1) / 2

/-- The width of the panel of the transcript on a screen. -/
def chatWidth (width : Nat) : Nat := width - chatStart width

/-- The height of the panel of the transcript on a screen. -/
def chatHeight (height : Nat) : Nat := height - 2 * barHeight - barHeight

theorem length_of_mem_drawBuildings {a : App σ} {width height : Nat} (h : 2 ≤ width) {row : List Cell}
    (hrow : row ∈ a.drawBuildings width height) : row.length = width := by
  refine Frame.length_of_mem_draw h (fun r hr => ?_) hrow
  obtain ⟨_, -, rfl⟩ := List.mem_map.1 hr
  exact length_listRow _ _

theorem length_of_mem_drawLayout {a : App σ} {width height : Nat} (h : 2 ≤ width) {row : List Cell}
    (hrow : row ∈ a.drawLayout width height) : row.length = width := by
  refine Frame.length_of_mem_draw h (fun r hr => ?_) hrow
  obtain ⟨_, -, rfl⟩ := List.mem_map.1 hr
  exact length_listRow _ _

/-- The width of a row of the transcript on a screen. -/
def chatColumns (width : Nat) : Nat := chatWidth width - 2

/-- How many rows of the transcript there is room for on a screen. -/
def chatRows (height : Nat) : Nat := chatHeight height - 2

/-- The transcript is what stands on the right below the heading. -/
theorem getElem?_draw (a : App σ) (now : Nat) {width height j : Nat} (hwidth : 20 ≤ width)
    (hheight : 16 ≤ height) (hj : j < chatHeight height) :
    ((a.draw now width height)[barHeight + j]?).map (·.drop (chatStart width))
      = (a.drawTranscript now (chatWidth width) (chatHeight height))[j]? := by
  obtain ⟨first, hfirst⟩ : ∃ first, first = (2 * width + 5) / 10 := ⟨_, rfl⟩
  obtain ⟨second, hsecond⟩ : ∃ second, second = chatStart width - first := ⟨_, rfl⟩
  have hstart : chatStart width = first + second := by
    rw [hsecond, chatStart]
    omega
  have hwide : 2 ≤ first ∧ 2 ≤ second := by
    rw [hsecond, chatStart]
    omega
  have hhigh : 2 ≤ chatHeight height ∧ height - 2 * barHeight = chatHeight height + barHeight := by
    rw [chatHeight, barHeight]
    omega
  let chat := a.drawTranscript now (chatWidth width) (chatHeight height) ++ a.drawInput (chatWidth width)
  let left := a.drawBuildings first (height - 2 * barHeight)
  let middle := a.drawLayout second (height - 2 * barHeight)
  have hdraw : a.draw now width height
      = a.drawHeading width ++ (beside left (beside middle chat) ++ a.drawHelp width) := by
    rw [← List.append_assoc]
    simp only [draw, left, middle, hsecond, hfirst]
    rfl
  have hbar : 2 ≤ barHeight := by decide
  have hheading : (a.drawHeading width).length = barHeight := Frame.length_draw _ _ hbar
  have hinput : (a.drawInput (chatWidth width)).length = barHeight := Frame.length_draw _ _ hbar
  have htranscript : (a.drawTranscript now (chatWidth width) (chatHeight height)).length
      = chatHeight height := Frame.length_draw _ _ hhigh.1
  have htall : 2 ≤ height - 2 * barHeight := by omega
  have hleft : left.length = height - 2 * barHeight := Frame.length_draw _ _ htall
  have hmiddle : middle.length = height - 2 * barHeight := Frame.length_draw _ _ htall
  have hall : j < (beside left (beside middle chat)).length := by
    simp only [beside, List.length_zipWith, hleft, hmiddle, chat, List.length_append, htranscript, hinput]
    omega
  have hleftRow : ∀ row ∈ left, row.length = first :=
    fun _ hrow => length_of_mem_drawBuildings hwide.1 hrow
  have hmiddleRow : ∀ row ∈ middle, row.length = second :=
    fun _ hrow => length_of_mem_drawLayout hwide.2 hrow
  calc ((a.draw now width height)[barHeight + j]?).map (·.drop (chatStart width))
      = ((beside left (beside middle chat))[j]?).map (·.drop (chatStart width)) := by
        rw [hdraw, List.getElem?_append_right (by omega), hheading, Nat.add_sub_cancel_left,
          List.getElem?_append_left hall]
    _ = (((beside left (beside middle chat))[j]?).map (·.drop first)).map (·.drop second) := by
        rw [Option.map_map, hstart]
        simp only [Function.comp_def, List.drop_drop]
    _ = chat[j]? := by
        rw [getElem?_beside hleftRow (by omega), getElem?_beside hmiddleRow (by omega)]
    _ = (a.drawTranscript now (chatWidth width) (chatHeight height))[j]? :=
        List.getElem?_append_left (by omega)

end App

end Floorplan
