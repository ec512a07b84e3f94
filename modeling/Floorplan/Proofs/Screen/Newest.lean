import Floorplan.Proofs.Screen.Panel
import Floorplan.Proofs.Screen.Wrap

set_option autoImplicit false

/-! # Whether the newest message is on the screen

The transcript is scrolled to where its end would be if lines were cut at the width of the panel. They are
broken at words, which can take more rows than that, and also fewer, because the blank at a break is
dropped. So whether the newest message is on the screen depends on how far the two counts are apart
(`App.showsNewest_iff`). They agree where every line fits (`App.showsNewest_of_fits`).

Rows are told apart by their numbers among all rows of the transcript, since two of them can look the
same. -/

namespace Floorplan

open Screen

namespace Screen

variable {lines : List (List Span)} {width height offset t i : Nat}

/-- A line in one style. -/
def plainLine (line : List Char) : List Span := [{ text := line }]

/-- The rows that are in view from an offset on, with their numbers. -/
def numberedInView (lines : List (List Span)) (width height offset : Nat) : List (List Glyph × Nat) :=
  if App.maxScroll < offset + height then []
  else ((wrappedRows lines width).zipIdx.drop offset).take height

theorem map_fst_numberedInView (lines : List (List Span)) (width height offset : Nat) :
    (numberedInView lines width height offset).map Prod.fst = rowsInView lines width height offset := by
  rw [numberedInView, rowsInView]
  split
  · rfl
  · rw [List.map_take, List.map_drop, List.zipIdx_map_fst]

/-- In view are the rows from the offset on for which there is room, unless their numbers are too large. -/
theorem getElem?_numberedInView {row : List Glyph} :
    (numberedInView lines width height offset)[i]? = some (row, t) ↔
      offset + height ≤ App.maxScroll ∧ i < height ∧ t = offset + i ∧
        (wrappedRows lines width)[t]? = some row := by
  rw [numberedInView]
  by_cases hlarge : App.maxScroll < offset + height
  · rw [if_pos hlarge]
    exact iff_of_false (fun h => nomatch h) fun h => Nat.not_lt.2 h.1 hlarge
  · rw [if_neg hlarge, List.getElem?_take]
    by_cases hi : i < height
    · rw [if_pos hi, List.getElem?_drop, List.getElem?_zipIdx, Nat.zero_add, Option.map_eq_some_iff]
      constructor
      · rintro ⟨row, hrow, ⟨⟩⟩
        exact ⟨Nat.not_lt.1 hlarge, hi, rfl, hrow⟩
      · rintro ⟨-, -, rfl, hrow⟩
        exact ⟨row, hrow, rfl⟩
    · rw [if_neg hi]
      exact iff_of_false (fun h => nomatch h) fun h => hi h.2.1

theorem length_wrappedRows_pos (h : lines ≠ []) (width : Nat) : 0 < (wrappedRows lines width).length := by
  obtain ⟨line, rest, rfl⟩ := List.exists_cons_of_ne_nil h
  have hline := List.length_pos_iff.2 (wrapped_ne_nil width (line.flatMap Span.glyphs))
  rw [wrappedRows, List.flatMap_cons, List.length_append]
  omega

/-- A line that is empty, or not blank and narrower than a row. -/
structure Fits (width : Nat) (line : List Span) : Prop where
  total : Span.total line ≤ width
  glyphs : line.flatMap Span.glyphs ≠ [] → Glyph.total (line.flatMap Span.glyphs) < width ∧
    ∃ g ∈ line.flatMap Span.glyphs, g.isBreak = false

theorem Fits.cutHeight_eq {line : List Span} (h : Fits width line) (hwidth : 0 < width) :
    cutHeight width line = 1 := by
  have hquotient : (Span.total line + width - 1) / width < 2 :=
    Nat.div_lt_of_lt_mul (by have := h.total; omega)
  rw [cutHeight, if_neg (by omega)]
  omega

theorem Fits.length_wrapped {line : List Span} (h : Fits width line) :
    (wrapped width (line.flatMap Span.glyphs)).length = 1 := by
  by_cases hempty : line.flatMap Span.glyphs = []
  · rw [hempty, wrapped_nil]
    rfl
  · obtain ⟨htotal, hword⟩ := h.glyphs hempty
    rw [wrapped_of_fits htotal hword]
    rfl

/-- Where all lines fit, both ways of counting count lines. -/
theorem totalCutHeight_of_fits (h : ∀ line ∈ lines, Fits width line) (hwidth : 0 < width) :
    totalCutHeight width lines = lines.length := by
  induction lines with
  | nil => rfl
  | cons line rest ih =>
    rw [totalCutHeight, (h line List.mem_cons_self).cutHeight_eq hwidth,
      ih fun other hother => h other (List.mem_cons_of_mem line hother), List.length_cons, Nat.add_comm]

theorem length_wrappedRows_of_fits (h : ∀ line ∈ lines, Fits width line) :
    (wrappedRows lines width).length = lines.length := by
  induction lines with
  | nil => rfl
  | cons line rest ih =>
    have hrest := ih fun other hother => h other (List.mem_cons_of_mem line hother)
    rw [wrappedRows] at hrest ⊢
    rw [List.flatMap_cons, List.length_append, hrest, (h line List.mem_cons_self).length_wrapped,
      List.length_cons, Nat.add_comm]

theorem wrappedRows_append (lines rest : List (List Span)) (width : Nat) :
    wrappedRows (lines ++ rest) width = wrappedRows lines width ++ wrappedRows rest width :=
  List.flatMap_append

end Screen

namespace Message

/-- The line with the sender and the time. -/
def headingLine (m : Message) : List Span := [m.senderSpan, ⟨' ' :: ' ' :: m.time.clockChars, muted.style⟩]

/-- The lines of the content, as they are shown. -/
def shownContent (m : Message) : List (List Char) :=
  (Text.lines m.content.toList).map withoutEmphasis

theorem screenLines_eq (m : Message) :
    m.screenLines = m.headingLine :: m.shownContent.map plainLine ++ [[]] := by
  rw [screenLines, shownContent, List.map_map]
  rfl

end Message

namespace App

variable {σ : Type} {a : App σ} {upto : List (List Span)} {now width height t i : Nat}

/-- The lines of the transcript up to the last line of the newest message that is not blank. -/
def Newest (a : App σ) (upto : List (List Span)) : Prop :=
  ∃ earlier m content line blanks, a.session.messages = earlier ++ [m] ∧
    m.shownContent = content ++ line :: blanks ∧ line.all Text.isBlank = false ∧
    (∀ l ∈ blanks, l.all Text.isBlank = true) ∧
    upto = earlier.flatMap Message.screenLines ++ m.headingLine :: (content ++ [line]).map plainLine

/-- The rows of the transcript in view, with their numbers. -/
def numberedRows (a : App σ) (now width height : Nat) : List (List Glyph × Nat) :=
  let lines := a.transcriptLines now
  numberedInView lines width height (scrollOffset lines width height a.scroll)

/-- How many rows the transcript is reckoned to take on a screen. -/
def reckonedRows (a : App σ) (now width : Nat) : Nat :=
  totalCutHeight (chatColumns width) (a.transcriptLines now)

/-- The rows that lines of the transcript take on a screen. -/
def takenRows (lines : List (List Span)) (width : Nat) : List (List Glyph) :=
  wrappedRows lines (chatColumns width)

/-- A screen shows the last of the rows that the first lines of the transcript take: one of the lines of
    the panel is the row with that number. -/
def ShowsEnd (a : App σ) (upto : List (List Span)) (now width height : Nat) : Prop :=
  ∃ i row, (takenRows upto width).getLast? = some row ∧
    (a.numberedRows now (chatColumns width) (chatRows height))[i]?
      = some (row, (takenRows upto width).length - 1) ∧
    ((a.draw now width height)[barHeight + (i + 1)]?).map (·.drop (chatStart width))
      = some (panelLine (chatWidth width) row)

/-- A row in view is drawn in the panel. -/
theorem getElem?_drawTranscript {row : List Glyph}
    (h : (a.numberedRows now (width - 2) (height - 2))[i]? = some (row, t)) :
    (a.drawTranscript now width height)[i + 1]? = some (panelLine width row) := by
  have hi : i < height - 2 := (getElem?_numberedInView.1 h).2.1
  have hrow : (a.transcriptRows now (width - 2) (height - 2))[i]? = some row := by
    rw [numberedRows] at h
    rw [transcriptRows, ← map_fst_numberedInView, List.getElem?_map, h, Option.map_some]
  refine Frame.getElem?_draw hi ?_
  exact List.getElem?_map.trans (congrArg _ hrow)

/-- The transcript goes on behind the last line of the newest message that is not blank. -/
theorem Newest.exists_rest (h : a.Newest upto) (hidle : a.waitingSince = none) (now : Nat) :
    upto ≠ [] ∧ ∃ rest, a.transcriptLines now = upto ++ rest := by
  obtain ⟨earlier, m, content, line, blanks, hmessages, hcontent, -, -, rfl⟩ := h
  refine ⟨List.append_ne_nil_of_right_ne_nil _ (List.cons_ne_nil _ _), blanks.map plainLine ++ [[]], ?_⟩
  rw [transcriptLines, waitingLine?, hidle, hmessages]
  simp [List.flatMap_append, Message.screenLines_eq, hcontent]

/-- When the end of the first lines of the transcript is on the screen. -/
theorem showsEnd_iff {rest : List (List Span)} (hlines : a.transcriptLines now = upto ++ rest)
    (hupto : upto ≠ []) (hscroll : a.scroll = 0) (hwidth : 20 ≤ width) (hheight : 16 ≤ height) :
    a.ShowsEnd upto now width height ↔
      (takenRows upto width).length ≤ max (a.reckonedRows now width) (chatRows height) ∧
        a.reckonedRows now width < (takenRows upto width).length + chatRows height ∧
        max (a.reckonedRows now width) (chatRows height) ≤ maxScroll := by
  have hpos : 0 < (takenRows upto width).length := length_wrappedRows_pos hupto (chatColumns width)
  have hroom : 0 < chatRows height := by
    rw [chatRows, chatHeight, barHeight]
    omega
  obtain ⟨row, hrow⟩ := Option.isSome_iff_exists.1
    (List.getLast?_isSome.2 (List.ne_nil_of_length_pos hpos))
  -- The last row of the first lines has its number among all rows, too.
  have hplace : (wrappedRows (a.transcriptLines now) (chatColumns width))[
      (takenRows upto width).length - 1]? = some row := by
    rw [hlines, wrappedRows_append, ← takenRows, List.getElem?_append_left (by omega),
      ← List.getLast?_eq_getElem?]
    exact hrow
  have hview : ∀ i, (a.numberedRows now (chatColumns width) (chatRows height))[i]?
        = some (row, (takenRows upto width).length - 1) ↔
      min (a.reckonedRows now width - chatRows height) maxScroll + chatRows height ≤ maxScroll ∧
        i < chatRows height ∧
        (takenRows upto width).length - 1
          = min (a.reckonedRows now width - chatRows height) maxScroll + i := by
    intro i
    rw [numberedRows, hscroll, getElem?_numberedInView, scrollOffset, Nat.sub_zero, ← reckonedRows]
    simp only [hplace, and_true]
  constructor
  · rintro ⟨i, row', hlast, hnumbered, -⟩
    obtain rfl : row = row' := Option.some.inj (hrow.symm.trans hlast)
    have hi := (hview i).1 hnumbered
    omega
  · rintro ⟨hbelow, habove, hsmall⟩
    obtain ⟨i, hi⟩ : ∃ i, (takenRows upto width).length - 1
        = min (a.reckonedRows now width - chatRows height) maxScroll + i :=
      Nat.exists_eq_add_of_le (by omega)
    have hinner : i < chatRows height := by omega
    have hnumbered := (hview i).2 ⟨by omega, hinner, hi⟩
    refine ⟨i, row, hrow, hnumbered, ?_⟩
    rw [chatRows] at hinner
    rw [getElem?_draw a now hwidth hheight (by omega)]
    exact getElem?_drawTranscript hnumbered

/-- Where all lines fit, the newest message is on the screen, unless too many blank lines follow it or the
    transcript is too long to be drawn. -/
theorem showsNewest_of_fits (hnewest : a.Newest upto) (hidle : a.waitingSince = none)
    (hscroll : a.scroll = 0) (hwidth : 20 ≤ width) (hheight : 16 ≤ height)
    (hfits : ∀ line ∈ a.transcriptLines now, Fits (chatColumns width) line)
    (hblanks : (a.transcriptLines now).length < upto.length + chatRows height)
    (hlength : max (a.transcriptLines now).length (chatRows height) ≤ maxScroll) :
    a.ShowsEnd upto now width height := by
  obtain ⟨hne, rest, hlines⟩ := hnewest.exists_rest hidle now
  have hcolumns : 0 < chatColumns width := by
    rw [chatColumns, chatWidth, chatStart]
    omega
  have hreckoned : a.reckonedRows now width = (a.transcriptLines now).length :=
    totalCutHeight_of_fits hfits hcolumns
  have htaken : (takenRows upto width).length = upto.length :=
    length_wrappedRows_of_fits fun line hline => hfits line (hlines ▸ List.mem_append_left rest hline)
  have hle : upto.length ≤ (a.transcriptLines now).length := by
    rw [hlines, List.length_append]
    omega
  rw [showsEnd_iff hlines hne hscroll hwidth hheight, hreckoned, htaken]
  omega

/-- **When the newest message is on the screen**: if the transcript is reckoned to be long enough, but not
    so long that the message is scrolled past, and not too long to be drawn. -/
theorem showsNewest_iff (hnewest : a.Newest upto) (hidle : a.waitingSince = none) (hscroll : a.scroll = 0)
    (now : Nat) (hwidth : 20 ≤ width) (hheight : 16 ≤ height) :
    a.ShowsEnd upto now width height ↔
      (takenRows upto width).length ≤ max (a.reckonedRows now width) (chatRows height) ∧
        a.reckonedRows now width < (takenRows upto width).length + chatRows height ∧
        max (a.reckonedRows now width) (chatRows height) ≤ maxScroll := by
  obtain ⟨hne, rest, hlines⟩ := hnewest.exists_rest hidle now
  exact showsEnd_iff hlines hne hscroll hwidth hheight

/-- A message of the user, in a panel with room for eight columns and five rows. -/
def cramped : App MemoryStore :=
  .ofSession
    { store := {}
      collection := .empty
      messages := [⟨"1001", .user, "Move that room from here", .ofNanos 1000000000⟩] }

/-- The lines of that message. -/
def crampedLines : List (List Span) :=
  cramped.session.messages.flatMap fun m => [m.headingLine, plainLine m.content.toList]

theorem cramped_newest : cramped.Newest crampedLines :=
  ⟨[], _, [], _, [], rfl, rfl, by decide, fun _ h => (nomatch h), rfl⟩

set_option maxRecDepth 100000 in
theorem cramped_shown : cramped.Newest crampedLines ∧ cramped.ShowsEnd crampedLines 1000 80 24 :=
  ⟨cramped_newest, (showsNewest_iff cramped_newest rfl rfl 1000 (by decide) (by decide)).2
    (by decide +kernel)⟩

set_option maxRecDepth 100000 in
/-- On the smallest screen each word takes a row, and the last one is below the panel. -/
theorem cramped_hidden :
    (¬ ∀ (a : App MemoryStore) (upto : List (List Span)) (now width height : Nat), a.Newest upto →
      a.waitingSince = none → a.scroll = 0 → 20 ≤ width → 16 ≤ height →
      a.ShowsEnd upto now width height) ∧
    (takenRows crampedLines 20).getLast?.map (·.flatMap Glyph.text) = some "here".toList ∧
    ∀ row ∈ cramped.transcriptRows 1000 (chatColumns 20) (chatRows 16),
      row.flatMap Glyph.text ≠ "here".toList := by
  refine ⟨fun hshown => ?_, by decide +kernel, by decide +kernel⟩
  obtain ⟨i, row, -, hnumbered, -⟩ :=
    hshown cramped crampedLines 1000 20 16 cramped_newest rfl rfl (by decide) (by decide)
  have hmem : (takenRows crampedLines 20).length - 1
      ∈ (cramped.numberedRows 1000 (chatColumns 20) (chatRows 16)).map Prod.snd :=
    List.mem_map_of_mem (f := Prod.snd) (List.mem_of_getElem? hnumbered)
  exact absurd hmem (by decide +kernel)

end App

end Floorplan
