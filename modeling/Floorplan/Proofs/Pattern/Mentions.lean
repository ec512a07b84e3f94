import Floorplan.Proofs.Pattern.Absent
import Floorplan.Proofs.Pattern.Leads
import Floorplan.Proofs.Text.Lowercase

set_option autoImplicit false

/-! # Words that are read are mentioned

A pattern reads a word in either case, letter by letter as `foldLetter` says; whether a text mentions a
word is asked of its full lower case. For words without s and k, the only letters with forms besides the
small and the capital one, the first implies the second (`Pattern.mentions_of_reads_word`), so what a text
does not mention no pattern finds in it. -/

namespace Floorplan

open Text (smallForm smallForms mergeSigma Mentions)

/-! ## Letters in either case -/

/-- Only the letters s and k have forms besides the small and the capital one. -/
theorem smallForm_of_foldLetter {c x : Char} (hx : x.toNat < 128) (hs : x ≠ 's') (hk : x ≠ 'k')
    (h : foldLetter c = x) : smallForm c = [x] := by
  unfold foldLetter at h
  split at h
  · exact absurd h.symm hs
  split at h
  · exact absurd h.symm hk
  have hascii : c.toNat < 128 := by
    by_contra hge
    have hkept : c.toLower = c := by
      unfold Char.toLower
      rw [dif_neg]
      rintro ⟨-, hle⟩
      have hle : c.toNat ≤ 90 := hle
      omega
    rw [hkept] at h
    rw [h] at hge
    exact hge hx
  have hne : ∀ y : Char, 128 ≤ y.toNat → c ≠ y := by
    rintro y hy rfl
    omega
  have hx' : x ≠ 'ς' := by
    rintro rfl
    exact absurd hx (by decide)
  rw [smallForm, if_neg (hne _ (by decide)), if_neg (hne _ (by decide)),
    Text.smallLetter_ascii c hascii, h, mergeSigma, if_neg hx']

theorem smallForms_of_foldLetter {u w : List Char}
    (hw : ∀ x ∈ w, x.toNat < 128 ∧ x ≠ 's' ∧ x ≠ 'k') (h : u.map foldLetter = w) :
    smallForms u = w := by
  subst h
  induction u with
  | nil => rfl
  | cons c u ih =>
    rw [List.map_cons] at hw
    obtain ⟨⟨hlt, hs, hk⟩, hu⟩ := List.forall_mem_cons.1 hw
    have hcons : smallForms (c :: u) = smallForm c ++ smallForms u := rfl
    rw [hcons, smallForm_of_foldLetter hlt hs hk rfl, ih hu]
    rfl

/-- The word is written in small ASCII letters that have no forms besides the small and the capital
    one. -/
def TwoForms (w : String) : Prop :=
  w.toList.map foldLetter = w.toList ∧ ∀ x ∈ w.toList, x.toNat < 128 ∧ x ≠ 's' ∧ x ≠ 'k'

instance (w : String) : Decidable (TwoForms w) := inferInstanceAs (Decidable (_ ∧ _))

namespace Pattern

variable {w : String} {s r : List Char}

theorem mentions_of_reads_word (hw : TwoForms w) (h : (word w).Reads s r) : Mentions [w] s := by
  obtain ⟨u, hu, rfl⟩ := reads_word.1 h
  have hforms : smallForms u = w.toList := smallForms_of_foldLetter hw.2 (hu.trans hw.1)
  refine ⟨w, List.mem_singleton_self w, ?_⟩
  rw [Text.smallForms_append, hforms]
  exact (List.prefix_append _ _).isInfix

/-- A word without a blank that is read in front of a blank is mentioned there. -/
theorem suffix_or_mentions (hw : TwoForms w) (hblank : ' ' ∉ w.toList) (hne : w.toList ≠ [])
    {a c t : List Char} (ht : t <:+ a ++ ' ' :: c) (h : (word w).Reads t r) :
    t <:+ c ∨ Mentions [w] a := by
  obtain ⟨u, hu, rfl⟩ := reads_word.1 h
  have hfold : u.map foldLetter = w.toList := hu.trans hw.1
  have hfree : ' ' ∉ u := fun hmem => hblank (hfold ▸ List.mem_map.2 ⟨' ', hmem, by decide⟩)
  rcases Text.suffix_append_cases ht with hin | ⟨f, -, hf, heq⟩
  · rcases List.suffix_cons_iff.1 hin with heq | hin
    · cases u with
      | nil => exact absurd hfold.symm hne
      | cons x u =>
        obtain ⟨rfl, -⟩ := List.cons.inj heq
        exact absurd List.mem_cons_self hfree
    · exact Or.inl hin
  · have hprefix : u <+: f := by
      refine Text.prefix_of_prefix_append_cons (x := ' ') (b := c) hfree ?_
      rw [← heq]
      exact List.prefix_append u r
    obtain ⟨v, rfl⟩ := hprefix
    have hread : (word w).Reads (u ++ v) v := reads_word.2 ⟨u, hu, rfl⟩
    exact Or.inr ((mentions_of_reads_word hw hread).mono hf.isInfix)

/-- Words that are not mentioned are not found. -/
theorem find?_words_eq_none {ws : List String} (hne : ws ≠ []) (hws : ∀ w ∈ ws, TwoForms w)
    (h : ¬ Mentions ws s) : (choice (ws.map word)).find? s = none := by
  refine find?_eq_none_iff.2 fun t ht r hread => h ?_
  obtain ⟨_, hp, hword⟩ := (reads_choice (by simpa using hne)).1 hread
  obtain ⟨w, hw, rfl⟩ := List.mem_map.1 hp
  exact ((mentions_of_reads_word (hws w hw) hword).mono ht.isInfix).of_subset (by simpa using hw)

/-- A word that is not mentioned is not found. -/
theorem find?_word_eq_none (hw : TwoForms w) (h : ¬ Mentions [w] s) : (word w).find? s = none :=
  find?_words_eq_none (List.cons_ne_nil w []) (by simpa using hw) h

end Pattern

end Floorplan
