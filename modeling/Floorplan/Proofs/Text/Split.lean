import Floorplan.Text.Search

set_option autoImplicit false

/-! # Cutting a text at a separator

A text is cut at each of its separators, so the parts of a text that is joined of parts without the
separator are found again (`Text.splitAt_intercalate`). -/

namespace Floorplan.Text

variable {separator : Char} {s filler : List Char} {parts : List (List Char)}

theorem splitAt_append (separator : Char) (s t : List Char) :
    splitAt separator (s ++ separator :: t) = splitAt separator s ++ splitAt separator t := by
  induction s with
  | nil =>
    cases h : splitAt separator t with
    | nil => exact absurd h (splitAt_ne_nil separator t)
    | cons piece pieces => simp [splitAt, h]
  | cons c s ih =>
    rw [List.cons_append, splitAt, splitAt, ih]
    cases h : splitAt separator s with
    | nil => exact absurd h (splitAt_ne_nil separator s)
    | cons piece pieces =>
      simp only [List.cons_append]
      split <;> rfl

theorem splitAt_of_notMem (h : separator ∉ s) : splitAt separator s = [s] := by
  induction s with
  | nil => rfl
  | cons c s ih =>
    rw [List.mem_cons, not_or] at h
    rw [splitAt, ih h.2]
    simp [Ne.symm h.1]

/-- The pieces between the separators are made of the other characters of the text. -/
theorem mem_of_mem_splitAt {piece : List Char} (h : piece ∈ splitAt separator s) :
    ∀ x ∈ piece, x ∈ s ∧ x ≠ separator := by
  induction s generalizing piece with
  | nil => simp_all [splitAt]
  | cons c rest ih =>
    have htail : ∀ p ∈ splitAt separator rest, ∀ x ∈ p, x ∈ c :: rest ∧ x ≠ separator :=
      fun p hp x hx => (ih hp x hx).imp_left (List.mem_cons_of_mem c)
    cases hrest : splitAt separator rest with
    | nil => exact absurd hrest (splitAt_ne_nil separator rest)
    | cons first pieces =>
      rw [hrest, List.forall_mem_cons] at htail
      obtain ⟨hfirst, hpieces⟩ := htail
      simp only [splitAt, hrest] at h
      by_cases hc : c = separator
      · rw [if_pos hc, List.mem_cons, List.mem_cons] at h
        obtain rfl | rfl | h := h
        · exact List.forall_mem_nil _
        · exact hfirst
        · exact hpieces piece h
      · rw [if_neg hc, List.mem_cons] at h
        obtain rfl | h := h
        · exact List.forall_mem_cons.2 ⟨⟨List.mem_cons_self, hc⟩, hfirst⟩
        · exact hpieces piece h

/-- What stands behind each separator ends up in front of every part but the first. -/
theorem splitAt_intercalate (hfiller : separator ∉ filler) (hs : separator ∉ s)
    (hparts : ∀ p ∈ parts, separator ∉ p) :
    splitAt separator ((separator :: filler).intercalate (s :: parts))
      = s :: parts.map (filler ++ ·) := by
  induction parts generalizing s with
  | nil => rw [List.intercalate_singleton, splitAt_of_notMem hs, List.map_nil]
  | cons p parts ih =>
    obtain ⟨hp, hparts⟩ := List.forall_mem_cons.1 hparts
    have hnext : separator ∉ filler ++ p := by simp [hfiller, hp]
    -- The filler counts as the beginning of the next part.
    have hshift : filler ++ (separator :: filler).intercalate (p :: parts)
        = (separator :: filler).intercalate ((filler ++ p) :: parts) := by
      cases parts <;> simp
    rw [List.intercalate_cons_cons, List.append_assoc, List.cons_append, splitAt_append,
      splitAt_of_notMem hs, hshift, ih hnext hparts]
    rfl

/-- What holds of the separator and in all parts holds in the joined text. -/
theorem forall_mem_intercalate {P : Char → Prop} (hs : ∀ x ∈ s, P x)
    (hparts : ∀ p ∈ parts, ∀ x ∈ p, P x) : ∀ x ∈ s.intercalate parts, P x := by
  induction parts with
  | nil => simp
  | cons p parts ih =>
    obtain ⟨hp, hparts⟩ := List.forall_mem_cons.1 hparts
    cases parts with
    | nil => rwa [List.intercalate_singleton]
    | cons q parts =>
      rw [List.intercalate_cons_cons, List.forall_mem_append, List.forall_mem_append]
      exact ⟨⟨hp, hs⟩, ih hparts⟩

end Floorplan.Text
