import Mathlib.Data.List.Infix

set_option autoImplicit false

/-! # Where a word occurs

A word that occurs in two texts one behind the other occurs in one of them, unless it begins in the first
and ends in the second. In pieces with blanks between them a word without a blank can only occur in one
of the pieces (`infix_spaced_iff`), so it does not matter in which order they stand. -/

namespace Floorplan.Text

variable {w a b t : List Char} {x : Char}

/-- What a text of two parts ends with lies in the second part or begins in the first. -/
theorem suffix_append_cases (h : t <:+ a ++ b) : t <:+ b ∨ ∃ u, u ≠ [] ∧ u <:+ a ∧ t = u ++ b := by
  rcases List.suffix_or_suffix_of_suffix h (List.suffix_append a b) with hin | ⟨u, rfl⟩
  · exact Or.inl hin
  · obtain ⟨v, hv⟩ := h
    rw [← List.append_assoc] at hv
    by_cases hu : u = []
    · exact Or.inl (hu ▸ List.suffix_rfl)
    · exact Or.inr ⟨u, hu, ⟨v, List.append_cancel_right hv⟩, rfl⟩

/-- Where a word neither occurs in a text nor can begin in it, it occurs behind it or not at all. -/
theorem infix_append_of_apart (hin : ¬ w <:+: a) (hover : ∀ t ∈ w.inits, t <:+ a → t = [])
    (h : w <:+: a ++ b) : w <:+: b := by
  rcases List.infix_append_iff.1 h with h | h | ⟨t, u, rfl, ht, hu⟩
  · exact absurd h hin
  · exact h
  · have hnil := hover t ((List.mem_inits _ _).2 (List.prefix_append t u)) ht
    rw [hnil]
    exact hu.isInfix

/-- A word occurs on one side of a character, or the character is one of its own. -/
theorem infix_append_cons_iff : w <:+: a ++ x :: b ↔
    w <:+: a ∨ w <:+: b ∨ ∃ u v, w = u ++ x :: v ∧ u <:+ a ∧ v <+: b := by
  constructor
  · intro h
    rcases List.infix_append_iff.1 h with h | h | ⟨u, t, rfl, hu, ht⟩
    · exact Or.inl h
    · rcases List.infix_cons_iff.1 h with h | h
      · rcases List.prefix_cons_iff.1 h with rfl | ⟨v, rfl, hv⟩
        · exact Or.inl (List.nil_infix)
        · exact Or.inr (Or.inr ⟨[], v, rfl, List.nil_suffix, hv⟩)
      · exact Or.inr (Or.inl h)
    · rcases List.prefix_cons_iff.1 ht with rfl | ⟨v, rfl, hv⟩
      · rw [List.append_nil]
        exact Or.inl hu.isInfix
      · exact Or.inr (Or.inr ⟨u, v, rfl, hu, hv⟩)
  · rintro (h | h | ⟨u, v, rfl, ⟨s, rfl⟩, ⟨t, rfl⟩⟩)
    · exact h.trans (List.prefix_append a _).isInfix
    · exact h.trans ((List.suffix_cons x b).trans (List.suffix_append a _)).isInfix
    · exact ⟨s, t, by simp⟩

theorem infix_append_cons_of_notMem (hx : x ∉ w) : w <:+: a ++ x :: b ↔ w <:+: a ∨ w <:+: b := by
  rw [infix_append_cons_iff]
  refine or_congr_right (or_iff_left ?_)
  rintro ⟨u, v, rfl, -⟩
  exact hx (List.mem_append_right u List.mem_cons_self)

/-- A word that a text begins with ends before the first character that it does not have. -/
theorem prefix_of_prefix_append_cons (hx : x ∉ w) (h : w <+: a ++ x :: b) : w <+: a := by
  induction w generalizing a with
  | nil => exact List.nil_prefix
  | cons y w ih =>
    cases a with
    | nil =>
      obtain ⟨rfl, -⟩ := List.cons_prefix_cons.1 h
      exact absurd List.mem_cons_self hx
    | cons z a =>
      obtain ⟨rfl, htail⟩ := List.cons_prefix_cons.1 h
      have hx' : x ∉ w := fun hmem => hx (List.mem_cons_of_mem y hmem)
      exact List.cons_prefix_cons.2 ⟨rfl, ih hx' htail⟩

/-! ## Pieces with blanks between them -/

/-- The pieces one after the other with a blank between each two. -/
def spaced : List (List Char) → List Char
  | [] => []
  | [p] => p
  | p :: q :: ps => p ++ ' ' :: spaced (q :: ps)

theorem spaced_cons {ps : List (List Char)} (p : List Char) (hne : ps ≠ []) :
    spaced (p :: ps) = p ++ ' ' :: spaced ps := by
  cases ps with
  | nil => exact absurd rfl hne
  | cons q ps => rfl

theorem spaced_append {ps qs : List (List Char)} (hp : ps ≠ []) (hq : qs ≠ []) :
    spaced (ps ++ qs) = spaced ps ++ ' ' :: spaced qs := by
  induction ps with
  | nil => exact absurd rfl hp
  | cons p ps ih =>
    cases ps with
    | nil => exact spaced_cons p hq
    | cons q ps =>
      have htail := ih (List.cons_ne_nil q ps)
      rw [List.cons_append, spaced_cons p (by simp), htail, spaced_cons p (List.cons_ne_nil q ps),
        List.append_assoc, List.cons_append]

/-- A word without a blank occurs in one of the pieces or not at all. -/
theorem infix_spaced_iff {ps : List (List Char)} (hne : w ≠ []) (hblank : ' ' ∉ w) :
    w <:+: spaced ps ↔ ∃ p ∈ ps, w <:+: p := by
  induction ps with
  | nil => simpa [spaced] using hne
  | cons p ps ih =>
    by_cases hps : ps = []
    · simp [hps, spaced]
    · rw [spaced_cons p hps, infix_append_cons_of_notMem hblank, ih, List.exists_mem_cons_iff]

theorem mem_spaced {ps : List (List Char)} (h : x ∈ spaced ps) : x = ' ' ∨ ∃ p ∈ ps, x ∈ p := by
  induction ps with
  | nil => cases h
  | cons p ps ih =>
    by_cases hps : ps = []
    · rw [hps] at h
      exact Or.inr ⟨p, List.mem_cons_self, h⟩
    · rw [spaced_cons p hps, List.mem_append, List.mem_cons] at h
      rcases h with h | h | h
      · exact Or.inr ⟨p, List.mem_cons_self, h⟩
      · exact Or.inl h
      · exact (ih h).imp_right fun ⟨q, hq, hx⟩ => ⟨q, List.mem_cons_of_mem p hq, hx⟩

end Floorplan.Text
