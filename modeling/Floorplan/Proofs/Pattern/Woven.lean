import Floorplan.Proofs.Pattern.Absent
import Floorplan.Proofs.Pattern.Count

set_option autoImplicit false

/-! # Words with numbers in between

A request with several quantities consists of fixed words with numbers between them. A pattern that
begins in none of the words and with no digit is nowhere in such a text, whatever the numbers are
(`Pattern.find?_weave_eq_none`). Where it could begin in the words is computed. -/

namespace Floorplan

/-- The words in turn, a number behind each, and the last word. -/
def Text.weave : List String → List String → String → List Char
  | w :: ws, d :: ds, last => w.toList ++ (d.toList ++ weave ws ds last)
  | _, _, last => last.toList

theorem Text.forall_mem_weave {f : Char → Prop} {ws ds : List String} {last : String}
    (hws : ∀ w ∈ ws, ∀ x ∈ w.toList, f x) (hds : ∀ d ∈ ds, ∀ x ∈ d.toList, f x)
    (hlast : ∀ x ∈ last.toList, f x) : ∀ x ∈ weave ws ds last, f x := by
  induction ws generalizing ds with
  | nil => exact hlast
  | cons w ws ih =>
    cases ds with
    | nil => exact hlast
    | cons d ds =>
      obtain ⟨hw, hws⟩ := List.forall_mem_cons.1 hws
      obtain ⟨hd, hds⟩ := List.forall_mem_cons.1 hds
      intro x hx
      simp only [weave, List.mem_append] at hx
      rcases hx with hx | hx | hx
      · exact hw x hx
      · exact hd x hx
      · exact ih hws hds x hx

namespace Pattern

variable {p q : Pattern} {s t : List Char} {w : String} {ws ds : List String} {last : String}

/-- Does the pattern begin nowhere in the text, whatever stands behind it? -/
def clears (p : Pattern) (s : List Char) : Bool :=
  s.tails.all fun u => u.isEmpty || (p.leftovers u).isEmpty

theorem find?_append_of_clears (hs : p.clears s = true) (ht : p.find? t = none) :
    p.find? (s ++ t) = none := by
  refine find?_append_eq_none (fun u hu hne => ?_) ht
  have hu := List.all_eq_true.1 hs u hu
  simpa [hne] using hu

theorem find?_digits_append {d : List Char} (hp : ∀ x t r, Text.isDigit x = true → ¬ p.Reads (x :: t) r)
    (hd : ∀ x ∈ d, Text.isDigit x = true) : p.find? (d ++ t) = p.find? t := by
  induction d with
  | nil => rfl
  | cons x d ih =>
    obtain ⟨hx, hd⟩ := List.forall_mem_cons.1 hd
    rw [List.cons_append, find?_of_not_reads fun r => hp x _ r hx, ih hd]

/-- **What begins in no word and with no digit is not found.** -/
theorem find?_weave_eq_none (hp : ∀ x t r, Text.isDigit x = true → ¬ p.Reads (x :: t) r)
    (hws : ∀ w ∈ ws, p.clears w.toList = true) (hds : ∀ d ∈ ds, ∀ x ∈ d.toList, Text.isDigit x = true)
    (hlast : p.find? last.toList = none) : p.find? (Text.weave ws ds last) = none := by
  induction ws generalizing ds with
  | nil => exact hlast
  | cons w ws ih =>
    cases ds with
    | nil => exact hlast
    | cons d ds =>
      obtain ⟨hw, hws⟩ := List.forall_mem_cons.1 hws
      obtain ⟨hd, hds⟩ := List.forall_mem_cons.1 hds
      refine find?_append_of_clears hw ?_
      rw [find?_digits_append hp hd]
      exact ih hws hds

/-! ## Words -/

/-- A word that begins with a letter is not read where a digit stands. -/
theorem not_reads_word_of_isDigit (hw : ∀ y ∈ (w.toList.map foldLetter).head?, Text.isDigit y = false)
    (hne : w.toList ≠ []) {x : Char} (hx : Text.isDigit x = true) (s r : List Char) :
    ¬ (word w).Reads (x :: s) r := by
  rw [reads_word]
  rintro ⟨u, hu, heq⟩
  rw [← hu] at hw
  cases u with
  | nil => exact hne (by simpa using hu.symm)
  | cons y u =>
    obtain ⟨rfl, -⟩ := List.cons.inj heq
    have hletter := hw (foldLetter x) rfl
    rw [Text.foldLetter_of_isDigit hx, hx] at hletter
    cases hletter

theorem not_reads_exactly_of_isDigit (hw : ∀ y ∈ w.toList.head?, Text.isDigit y = false)
    (hne : w.toList ≠ []) {x : Char} (hx : Text.isDigit x = true) (s r : List Char) :
    ¬ (exactly w).Reads (x :: s) r := by
  obtain ⟨y, ys, hcons⟩ := List.exists_cons_of_ne_nil hne
  rw [reads_exactly, hcons]
  intro heq
  obtain ⟨rfl, -⟩ := List.cons.inj heq
  rw [hw x (by rw [hcons]; rfl)] at hx
  cases hx

theorem find?_choice_eq_none {ps : List Pattern} (hne : ps ≠ []) (h : ∀ p ∈ ps, p.find? s = none) :
    (choice ps).find? s = none := by
  rw [find?_eq_none_iff]
  intro t ht r hread
  obtain ⟨p, hp, hread⟩ := (reads_choice hne).1 hread
  exact find?_eq_none_iff.1 (h p hp) t ht r hread

/-- Words that no pattern finds do not occur. -/
theorem containsAny_eq_false_of_find? (h : ∀ w ∈ ws, (word w).find? s = none) :
    Text.containsAny ws s = false := by
  rw [Bool.eq_false_iff, ne_eq, Text.containsAny, List.any_eq_true]
  rintro ⟨w, hw, hocc⟩
  obtain ⟨a, b, rfl⟩ := Text.containsChars_iff.1 hocc
  refine find?_eq_none_iff.1 (h w hw) (w.toList ++ b) ⟨a, (List.append_assoc ..).symm⟩ b ?_
  exact reads_word.2 ⟨w.toList, rfl, rfl⟩

end Pattern

end Floorplan
