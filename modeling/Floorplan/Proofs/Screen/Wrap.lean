import Floorplan.Screen.Wrap

set_option autoImplicit false

/-! # Lines that are wrapped

Every line takes a row, and one that fits on a row takes only that (`wrapped_of_fits`): while there is room,
filling a row only moves glyphs from the word to the row, and in their order. -/

namespace Floorplan.Screen

variable {limit : Nat} {gs : List Glyph} {g : Glyph}

namespace Glyph

theorem total_append (gs hs : List Glyph) : total (gs ++ hs) = total gs + total hs := by
  induction gs with
  | nil => exact (Nat.zero_add _).symm
  | cons g gs ih => rw [List.cons_append, total, total, ih, Nat.add_assoc]

end Glyph

namespace Filling

variable {f : Filling}

/-- What stands on the row and after it. -/
def glyphs (f : Filling) : List Glyph := f.line ++ f.gap ++ f.word

/-- The blank is blank, and the word is not followed by one yet. -/
structure Ordered (f : Filling) : Prop where
  gap : ∀ g ∈ f.gap, g.isBreak = true
  word : f.word ≠ [] → f.afterWord = true

theorem glyphs_settle (f : Filling) : f.settle.glyphs = f.glyphs := by
  simp [glyphs, settle]

theorem Ordered.settle (f : Filling) : f.settle.Ordered :=
  ⟨fun _ h => (nomatch h), fun h => absurd rfl h⟩

/-- Before a glyph that is blank, the word must have joined the row. -/
theorem glyphs_add (h : g.isBreak = true → f.word = []) : (f.add g).glyphs = f.glyphs ++ [g] := by
  by_cases hg : g.isBreak = true
  · simp [add, glyphs, hg, h hg]
  · simp [add, glyphs, hg]

theorem Ordered.add (h : f.Ordered) (hword : g.isBreak = true → f.word = []) : (f.add g).Ordered := by
  by_cases hg : g.isBreak = true
  · rw [Filling.add, if_pos hg]
    refine ⟨fun x hx => ?_, fun hne => absurd (hword hg) hne⟩
    rcases List.mem_append.1 hx with hx | hx
    · exact h.gap x hx
    · rwa [List.mem_singleton.1 hx]
  · rw [Filling.add, if_neg hg]
    exact ⟨h.gap, fun _ => rfl⟩

/-- While there is room, all glyphs go on the row in their order. -/
theorem rows_of_fits (hordered : f.Ordered) (hfits : Glyph.total f.glyphs + Glyph.total gs < limit) :
    ∃ f' : Filling, f'.Ordered ∧ f'.glyphs = f.glyphs ++ gs ∧ f.rows limit gs = f'.finish := by
  induction gs generalizing f with
  | nil => exact ⟨f, hordered, (List.append_nil _).symm, rfl⟩
  | cons g gs ih =>
    rw [Glyph.total] at hfits
    obtain ⟨s, hs⟩ : ∃ s, s = if f.isSettled limit g then f.settle else f := ⟨_, rfl⟩
    have hsame : s.glyphs = f.glyphs := by
      rw [hs]
      split
      · exact f.glyphs_settle
      · rfl
    have hsordered : s.Ordered := by
      rw [hs]
      split
      · exact Ordered.settle f
      · exact hordered
    have hword : g.isBreak = true → s.word = [] := by
      intro hg
      rw [hs]
      split
      · rfl
      · rename_i hkept
        by_cases hne : f.word = []
        · exact hne
        · exact absurd (by simp [isSettled, hordered.word hne, hg]) hkept
    have hroom : s.isFull limit g = false := by
      have htotal := congrArg Glyph.total hsame
      rw [glyphs, Glyph.total_append, Glyph.total_append] at htotal
      simp only [isFull, Bool.or_eq_false_iff, Bool.and_eq_false_iff, decide_eq_false_iff_not]
      omega
    obtain ⟨f', hf', hglyphs, hrows⟩ := ih (f := s.add g) (hsordered.add hword) (by
      rw [glyphs_add hword, hsame, Glyph.total_append, Glyph.total, Glyph.total]
      omega)
    refine ⟨f', hf', ?_, ?_⟩
    · rw [hglyphs, glyphs_add hword, hsame, List.append_assoc, List.singleton_append]
    · rw [rows, if_neg (by omega), ← hrows]
      simp only [← hs, hroom, Bool.false_eq_true, if_false]

/-- A row with something else than blank is the only one that is left. -/
theorem finish_of_word (h : f.Ordered) (hword : ∃ g ∈ f.glyphs, g.isBreak = false) :
    f.finish = [f.glyphs] := by
  obtain ⟨g, hg, hbreak⟩ := hword
  have hne : f.line ++ f.gap ++ f.word ≠ [] := List.ne_nil_of_mem hg
  have hfirst : (f.line.isEmpty && f.word.isEmpty && !f.gap.isEmpty) = false := by
    rw [Bool.eq_false_iff]
    intro hblank
    simp only [Bool.and_eq_true, List.isEmpty_iff] at hblank
    rw [glyphs, hblank.1.1, hblank.1.2, List.append_nil, List.nil_append] at hg
    rw [h.gap g hg] at hbreak
    cases hbreak
  rw [finish, hfirst, glyphs]
  simp only [Bool.false_eq_true, if_false, List.nil_append]
  exact List.filter_eq_self.2 fun x hx => by simpa [List.mem_singleton.1 hx] using hne

end Filling

theorem wrapped_ne_nil (limit : Nat) (gs : List Glyph) : wrapped limit gs ≠ [] := by
  rw [wrapped]
  split
  · exact List.cons_ne_nil _ _
  · assumption

theorem wrapped_nil (limit : Nat) : wrapped limit [] = [[]] := rfl

/-- A line that fits and is not blank is a row. -/
theorem wrapped_of_fits (hfits : Glyph.total gs < limit) (hword : ∃ g ∈ gs, g.isBreak = false) :
    wrapped limit gs = [gs] := by
  have hempty : ({} : Filling).Ordered := ⟨fun _ h => (nomatch h), fun h => absurd rfl h⟩
  have hroom : Glyph.total ({} : Filling).glyphs + Glyph.total gs < limit := by
    rwa [show Glyph.total ({} : Filling).glyphs = 0 from rfl, Nat.zero_add]
  obtain ⟨f, hf, hglyphs, hrows⟩ := Filling.rows_of_fits hempty hroom
  have hsame : f.glyphs = gs := hglyphs
  rw [wrapped, hrows, Filling.finish_of_word hf (hsame.symm ▸ hword), hsame]

end Floorplan.Screen
