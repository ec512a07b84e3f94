set_option autoImplicit false

/-! # Sets of characters given by code point ranges

A Unicode property is a set of code points, and its data is a table of inclusive ranges in ascending
order. Membership walks the table and stops at the first range that begins beyond the character, so
that text in the first ranges is decided at once. -/

namespace Floorplan.Text

/-- Inclusive code point ranges, ascending and apart. -/
abbrev CodePoints := List (Nat × Nat)

/-- Is the code point in one of the ranges? -/
def CodePoints.contains : CodePoints → Nat → Bool
  | [], _ => false
  | (low, high) :: rest, n => if n < low then false else n ≤ high || CodePoints.contains rest n

/-- Ranges in ascending order, each beginning after the end of the one before it. -/
def CodePoints.Ascending (ranges : CodePoints) : Prop :=
  (∀ r ∈ ranges, r.1 ≤ r.2) ∧ ranges.Pairwise (fun r s => r.2 < s.1)

/-- On an ascending table the early stop loses nothing: membership is membership in some range. -/
theorem CodePoints.contains_iff {ranges : CodePoints} (h : ranges.Ascending) (n : Nat) :
    ranges.contains n = true ↔ ∃ r ∈ ranges, r.1 ≤ n ∧ n ≤ r.2 := by
  induction ranges with
  | nil => simp [CodePoints.contains]
  | cons r rest ih =>
    obtain ⟨low, high⟩ := r
    obtain ⟨hle, hpair⟩ := h
    have hrest := ih ⟨fun s hs => hle s (List.mem_cons_of_mem _ hs), hpair.of_cons⟩
    have hlow : low ≤ high := hle (low, high) (List.mem_cons_self ..)
    have hafter := (List.pairwise_cons.1 hpair).1
    unfold CodePoints.contains
    by_cases hn : n < low
    · simp only [hn, if_true, List.mem_cons, Bool.false_eq_true, false_iff, not_exists, not_and]
      rintro s (rfl | hs) h1
      · simp only at h1; omega
      · have := hafter s hs; simp only at this; omega
    · simp only [hn, if_false, Bool.or_eq_true, decide_eq_true_eq, hrest, List.mem_cons]
      constructor
      · rintro (h1 | ⟨s, hs, h1⟩)
        · exact ⟨(low, high), .inl rfl, by simp only; omega, h1⟩
        · exact ⟨s, .inr hs, h1⟩
      · rintro ⟨s, rfl | hs, h1⟩
        · exact .inl h1.2
        · exact .inr ⟨s, hs, h1⟩

end Floorplan.Text
