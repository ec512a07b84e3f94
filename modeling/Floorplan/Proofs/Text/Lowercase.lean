import Floorplan.Text.Lowercase
import Floorplan.Text.Search
import Floorplan.Proofs.Text.Occurs

set_option autoImplicit false

/-! # Lower case letter by letter

Only the form of the letter sigma depends on what stands around it. When the two small forms are not told
apart, a text is put into lower case letter by letter (`map_mergeSigma_lowerChars`), so that a piece of a
text stays a piece; and for whether a word without sigma occurs in it nothing else matters
(`containsChars_lowerChars`). -/

namespace Floorplan.Text

variable {s t w : List Char}

/-- The final form of sigma for the other one, and every other character for itself. -/
def mergeSigma (c : Char) : Char := if c = 'ς' then 'σ' else c

/-- The lower case of one character, whatever stands around it. -/
def smallForm (c : Char) : List Char :=
  if c = 'Σ' then ['σ'] else if c = 'İ' then ['i', '\u0307'] else [mergeSigma (smallLetter c)]

/-- The lower case of a text, letter by letter. -/
def smallForms (s : List Char) : List Char := s.flatMap smallForm

theorem map_mergeSigma_lowerAfter (before s : List Char) :
    (lowerAfter before s).map mergeSigma = smallForms s := by
  induction s generalizing before with
  | nil => rfl
  | cons c rest ih =>
    have hsigma : mergeSigma (smallSigma before rest) = 'σ' := by
      unfold smallSigma
      split <;> rfl
    simp only [lowerAfter, List.map_append, ih, smallForms, List.flatMap_cons, smallForm]
    congr 1
    split
    · simp [hsigma]
    · split
      · rfl
      · rfl

/-- Up to the form of sigma, lower case is made letter by letter. -/
theorem map_mergeSigma_lowerChars (s : List Char) :
    (lowerChars s).map mergeSigma = smallForms s := map_mergeSigma_lowerAfter [] s

theorem length_lowerChars (s : List Char) : (lowerChars s).length = (smallForms s).length := by
  rw [← map_mergeSigma_lowerChars, List.length_map]

theorem smallForms_append (s t : List Char) : smallForms (s ++ t) = smallForms s ++ smallForms t :=
  List.flatMap_append

theorem smallForm_ne_nil (c : Char) : smallForm c ≠ [] := by
  unfold smallForm
  split
  · simp
  · split <;> simp

theorem smallForms_mono (h : s <:+: t) : smallForms s <:+: smallForms t := by
  obtain ⟨u, v, rfl⟩ := h
  rw [smallForms_append, smallForms_append]
  exact List.infix_append ..

theorem length_smallForms_pos (h : s ≠ []) : 0 < (smallForms s).length := by
  cases s with
  | nil => exact absurd rfl h
  | cons c rest =>
    have hpos := List.length_pos_iff.2 (smallForm_ne_nil c)
    simp only [smallForms, List.flatMap_cons, List.length_append]
    omega

/-- A text in front makes the lower case longer. -/
theorem length_lowerChars_lt (h : s ≠ []) (t : List Char) :
    (lowerChars t).length < (lowerChars (s ++ t)).length := by
  have hpos := length_smallForms_pos h
  rw [length_lowerChars, length_lowerChars, smallForms_append, List.length_append]
  omega

/-! ## Texts in lower case -/

theorem smallForms_eq_self (h : ∀ c ∈ s, smallForm c = [c]) : smallForms s = s := by
  induction s with
  | nil => rfl
  | cons c s ih =>
    obtain ⟨hc, hs⟩ := List.forall_mem_cons.1 h
    rw [smallForms, List.flatMap_cons, hc, ← smallForms, ih hs]
    rfl

theorem smallLetter_of_smallForm {c : Char} (h : smallForm c = [c]) :
    c ≠ 'Σ' ∧ c ≠ 'İ' ∧ smallLetter c = c := by
  have hsigma : c ≠ 'Σ' := by
    rintro rfl
    exact absurd h (by decide)
  have hdotted : c ≠ 'İ' := by
    rintro rfl
    exact absurd h (by decide)
  refine ⟨hsigma, hdotted, ?_⟩
  rw [smallForm, if_neg hsigma, if_neg hdotted, List.cons.injEq, mergeSigma] at h
  split at h
  · rename_i hfinal
    -- A small letter is no final sigma unless the letter was one.
    have hc : c = 'σ' := h.1.symm
    rw [hc] at hfinal
    exact absurd hfinal (by decide)
  · exact h.1

/-- A text in small letters stays as it is. -/
theorem lowerChars_eq_self (h : ∀ c ∈ s, smallForm c = [c]) : lowerChars s = s := by
  have hafter : ∀ before, lowerAfter before s = s := by
    induction s with
    | nil => exact fun _ => rfl
    | cons c s ih =>
      obtain ⟨hc, hs⟩ := List.forall_mem_cons.1 h
      obtain ⟨hsigma, hdotted, hsmall⟩ := smallLetter_of_smallForm hc
      intro before
      rw [lowerAfter, if_neg hsigma, if_neg hdotted, hsmall, ih hs]
      rfl
  exact hafter []

/-! ## Words without sigma -/

/-- The word is written in letters of one small form. -/
def SigmaFree (w : List Char) : Prop := 'σ' ∉ w ∧ 'ς' ∉ w

instance (w : List Char) : Decidable (SigmaFree w) :=
  inferInstanceAs (Decidable ('σ' ∉ w ∧ 'ς' ∉ w))

theorem map_mergeSigma_of_notMem (h : 'ς' ∉ s) : s.map mergeSigma = s := by
  refine (List.map_congr_left fun c hc => ?_).trans (List.map_id s)
  have hne : c ≠ 'ς' := fun heq => h (heq ▸ hc)
  simp [mergeSigma, hne]

theorem infix_map_mergeSigma (hw : SigmaFree w) : w <:+: s.map mergeSigma ↔ w <:+: s := by
  rw [List.infix_map_iff]
  constructor
  · rintro ⟨u, hu, rfl⟩
    -- A final sigma in the text would be an ordinary one in the word.
    have hfree : 'ς' ∉ u := fun hmem => hw.1 (List.mem_map.2 ⟨'ς', hmem, rfl⟩)
    rwa [map_mergeSigma_of_notMem hfree]
  · exact fun h => ⟨w, h, (map_mergeSigma_of_notMem hw.2).symm⟩

/-- A word without sigma occurs in the lower case of a text if and only if it does so letter by
    letter. -/
theorem containsChars_lowerChars (hw : SigmaFree w) :
    containsChars w (lowerChars s) = true ↔ w <:+: smallForms s := by
  rw [containsChars_iff, ← map_mergeSigma_lowerChars, infix_map_mergeSigma hw]

/-- The lower case of a text that begins with another letter than the word is not the word. -/
theorem lowerChars_append_ne (hw : SigmaFree w) (hs : smallForms s ≠ [])
    (hhead : (smallForms s).head? ≠ w.head?) (t : List Char) : lowerChars (s ++ t) ≠ w := by
  intro heq
  have hforms := map_mergeSigma_lowerChars (s ++ t)
  rw [heq, map_mergeSigma_of_notMem hw.2, smallForms_append] at hforms
  rw [hforms, List.head?_append_of_ne_nil _ hs] at hhead
  exact hhead rfl

theorem containsAny_of_infix {ws : List String} {v : String} (hv : v ∈ ws) (h : v.toList <:+: s) :
    containsAny ws s = true := List.any_eq_true.2 ⟨v, hv, containsChars_iff.2 h⟩

/-- One of the words occurs in the lower case of the text, whatever the form of sigma. -/
def Mentions (ws : List String) (s : List Char) : Prop := ∃ w ∈ ws, w.toList <:+: smallForms s

instance (ws : List String) (s : List Char) : Decidable (Mentions ws s) :=
  inferInstanceAs (Decidable (∃ w ∈ ws, w.toList <:+: smallForms s))

theorem containsAny_lowerChars {ws : List String} (hws : ∀ w ∈ ws, SigmaFree w.toList) :
    containsAny ws (lowerChars s) = true ↔ Mentions ws s := by
  rw [containsAny, List.any_eq_true]
  refine exists_congr fun w => and_congr_right fun hw => ?_
  exact containsChars_lowerChars (hws w hw)

theorem containsAny_lowerChars_eq_false {ws : List String} (hws : ∀ w ∈ ws, SigmaFree w.toList) :
    containsAny ws (lowerChars s) = false ↔ ¬ Mentions ws s := by
  rw [← containsAny_lowerChars hws, Bool.not_eq_true]

theorem Mentions.mono {ws : List String} (hst : s <:+: t) (h : Mentions ws s) : Mentions ws t := by
  obtain ⟨w, hw, hocc⟩ := h
  exact ⟨w, hw, hocc.trans (smallForms_mono hst)⟩

theorem Mentions.of_subset {ws vs : List String} (hws : ∀ w ∈ ws, w ∈ vs) (h : Mentions ws s) :
    Mentions vs s := by
  obtain ⟨w, hw, hocc⟩ := h
  exact ⟨w, hws w hw, hocc⟩

/-- What is asked for in front of a text, where no word occurs and none can begin, does not count. -/
theorem Mentions.of_append {ws : List String} (hin : ∀ w ∈ ws, ¬ w.toList <:+: smallForms s)
    (hover : ∀ w ∈ ws, ∀ t ∈ w.toList.inits, t <:+ smallForms s → t = [])
    (h : Mentions ws (s ++ t)) : Mentions ws t := by
  obtain ⟨w, hw, hocc⟩ := h
  rw [smallForms_append] at hocc
  exact ⟨w, hw, infix_append_of_apart (hin w hw) (hover w hw) hocc⟩

theorem smallForms_spaced (ps : List (List Char)) :
    smallForms (spaced ps) = spaced (ps.map smallForms) := by
  induction ps with
  | nil => rfl
  | cons p ps ih =>
    by_cases hps : ps = []
    · simp [hps, spaced]
    · have hmap : ps.map smallForms ≠ [] := by simpa using hps
      rw [spaced_cons p hps, smallForms_append, List.map_cons, spaced_cons _ hmap, ← ih]
      rfl

/-- Words without a certain character that stays as it is are mentioned on one side of it. -/
theorem mentions_append_cons_iff {ws : List String} {x : Char} (hx : smallForm x = [x])
    (hws : ∀ w ∈ ws, x ∉ w.toList) :
    Mentions ws (s ++ x :: t) ↔ Mentions ws s ∨ Mentions ws t := by
  have hforms : smallForms (s ++ x :: t) = smallForms s ++ x :: smallForms t := by
    rw [smallForms_append, smallForms, smallForms, List.flatMap_cons, hx]
    rfl
  simp only [Mentions, hforms]
  constructor
  · rintro ⟨w, hw, hocc⟩
    rcases (infix_append_cons_of_notMem (hws w hw)).1 hocc with hocc | hocc
    · exact Or.inl ⟨w, hw, hocc⟩
    · exact Or.inr ⟨w, hw, hocc⟩
  · rintro (⟨w, hw, hocc⟩ | ⟨w, hw, hocc⟩)
    · exact ⟨w, hw, (infix_append_cons_of_notMem (hws w hw)).2 (Or.inl hocc)⟩
    · exact ⟨w, hw, (infix_append_cons_of_notMem (hws w hw)).2 (Or.inr hocc)⟩

/-- A text in small letters that a letter of every word is not among mentions none of the words. -/
theorem not_mentions_of_letters {ws : List String} {f : Char → Prop}
    (hs : ∀ x ∈ s, smallForm x = [x] ∧ f x) (hws : ∀ w ∈ ws, ∃ x ∈ w.toList, ¬ f x) :
    ¬ Mentions ws s := by
  rintro ⟨w, hw, hocc⟩
  rw [smallForms_eq_self fun x hx => (hs x hx).1] at hocc
  obtain ⟨x, hx, hnot⟩ := hws w hw
  exact hnot (hs x (hocc.subset hx)).2

end Floorplan.Text
