import Floorplan.Text.Blank
import Mathlib.Data.List.Infix
import Mathlib.Data.List.TakeWhile

set_option autoImplicit false

/-! # Text without the white space around it

What is left of a text is a piece of it that has no white space at either end, and nothing is left only
if there was nothing but white space. -/

namespace Floorplan.Text

variable {s : List Char}

/-! ## Deciding what holds along a text

The characters of the text are tried, and not all the characters there are. -/

instance decidableForallChars (s : List Char) (P : Char → Prop) [DecidablePred P] :
    Decidable (∀ x ∈ s, P x) := List.decidableBAll P s

instance decidableExistsChars (s : List Char) (P : Char → Prop) [DecidablePred P] :
    Decidable (∃ x ∈ s, P x) := List.decidableBEx P s

instance decidableForallHead (o : Option Char) (P : Char → Prop) [DecidablePred P] :
    Decidable (∀ x ∈ o, P x) := Option.decidableForallMem o

instance (s : List Char) : Decidable (Trimmed s) :=
  decidable_of_iff ((∀ c ∈ s.head?, isBlank c = false) ∧ ∀ c ∈ s.getLast?, isBlank c = false)
    ⟨fun h => ⟨h.1, h.2⟩, fun h => ⟨h.head, h.last⟩⟩

/-! ## White space at the ends -/

theorem trimLeft_cons {c : Char} (s : List Char) (h : isBlank c = false) :
    trimLeft (c :: s) = c :: s := List.dropWhile_cons_of_neg (by simp [h])

theorem trimLeft_suffix (s : List Char) : trimLeft s <:+ s := List.dropWhile_suffix _

theorem trimRight_prefix_self (s : List Char) : trimRight s <+: s := by
  rw [trimRight, ← List.reverse_suffix, List.reverse_reverse]
  exact List.dropWhile_suffix _

theorem trimChars_infix_self (s : List Char) : trimChars s <:+: s :=
  (trimRight_prefix_self _).isInfix.trans (trimLeft_suffix s).isInfix

theorem head_trimLeft (s : List Char) : ∀ c ∈ (trimLeft s).head?, isBlank c = false := by
  intro c hc
  have h := List.head?_dropWhile_not isBlank s
  rw [trimLeft, Option.mem_def] at hc
  rw [hc] at h
  simpa using h

theorem last_trimRight (s : List Char) : ∀ c ∈ (trimRight s).getLast?, isBlank c = false := by
  intro c hc
  rw [trimRight, List.getLast?_reverse] at hc
  exact head_trimLeft s.reverse c hc

theorem trimmed_trimChars (s : List Char) : Trimmed (trimChars s) := by
  refine ⟨fun c hc => ?_, last_trimRight _⟩
  obtain ⟨v, hv⟩ := trimRight_prefix_self (trimLeft s)
  refine head_trimLeft s c ?_
  rw [← hv]
  cases h : trimRight (trimLeft s) with
  | nil => simp [trimChars, h] at hc
  | cons x xs => simpa [trimChars, h] using hc

theorem trimLeft_of_head (h : ∀ c ∈ s.head?, isBlank c = false) : trimLeft s = s := by
  cases s with
  | nil => rfl
  | cons x xs => exact trimLeft_cons xs (h x rfl)

theorem isBlank_head_append (hne : s ≠ []) (hs : ∀ c ∈ s.head?, isBlank c = false) (t : List Char) :
    ∀ c ∈ (s ++ t).head?, isBlank c = false := by
  rwa [List.head?_append_of_ne_nil _ hne]

theorem Trimmed.trimLeft_eq (h : Trimmed s) : trimLeft s = s := trimLeft_of_head h.head

theorem trimChars_trimLeft (s : List Char) : trimChars (trimLeft s) = trimChars s := by
  rw [trimChars, trimLeft_of_head (head_trimLeft s), trimChars]

theorem trimLeft_append (h : ∃ x ∈ s, isBlank x = false) (t : List Char) :
    trimLeft (s ++ t) = trimLeft s ++ t := by
  rw [trimLeft, List.dropWhile_append, if_neg (by simpa using h)]
  rfl

theorem Trimmed.trimRight_eq (h : Trimmed s) : trimRight s = s := by
  cases hs : s.reverse with
  | nil =>
    rw [List.reverse_eq_nil_iff] at hs
    rw [hs]
    rfl
  | cons x xs =>
    have hx := h.last x (by rw [List.getLast?_eq_head?_reverse, hs]; simp)
    rw [trimRight, hs, List.dropWhile_cons_of_neg (by simp [hx]), ← hs, List.reverse_reverse]

theorem Trimmed.trimChars_eq (h : Trimmed s) : trimChars s = s := by
  rw [trimChars, h.trimLeft_eq, h.trimRight_eq]

/-- What is taken away at the end is white space. -/
theorem exists_blank_trimRight (s : List Char) :
    ∃ b, (∀ x ∈ b, isBlank x = true) ∧ s = trimRight s ++ b := by
  refine ⟨(s.reverse.takeWhile isBlank).reverse, fun x hx => ?_, ?_⟩
  · exact List.mem_takeWhile_imp (List.mem_reverse.1 hx)
  · rw [trimRight, ← List.reverse_append, List.takeWhile_append_dropWhile, List.reverse_reverse]

/-- What is left of a text begins where it begins without the white space in front of it. -/
theorem head?_trimChars (s : List Char) : (trimChars s).head? = (trimLeft s).head? := by
  obtain ⟨b, hb, heq⟩ := exists_blank_trimRight (trimLeft s)
  rw [trimChars]
  cases hs : trimRight (trimLeft s) with
  | cons x xs => rw [heq, hs, List.cons_append, List.head?_cons, List.head?_cons]
  | nil =>
    rw [hs, List.nil_append] at heq
    cases b with
    | nil => rw [heq]
    | cons x b =>
      -- White space would have been taken away in front.
      have hx := hb x List.mem_cons_self
      rw [head_trimLeft s x (by rw [heq]; rfl)] at hx
      cases hx

/-- What is not white space is left. -/
theorem mem_trimLeft {x : Char} (hx : x ∈ s) (hblank : isBlank x = false) : x ∈ trimLeft s := by
  rw [← List.takeWhile_append_dropWhile (p := isBlank) (l := s)] at hx
  rcases List.mem_append.1 hx with hx | hx
  · simpa [hblank] using List.mem_takeWhile_imp hx
  · exact hx

theorem mem_trimChars {x : Char} (hx : x ∈ s) (hblank : isBlank x = false) : x ∈ trimChars s :=
  List.mem_reverse.2 (mem_trimLeft (List.mem_reverse.2 (mem_trimLeft hx hblank)) hblank)

theorem exists_not_blank {n : String} (h : allBlank n = false) :
    ∃ x ∈ n.toList, isBlank x = false := by
  simpa using List.all_eq_false.1 h

theorem trimLeft_ne_nil {n : String} (h : allBlank n = false) : trimLeft n.toList ≠ [] := by
  obtain ⟨x, hx, hblank⟩ := exists_not_blank h
  exact List.ne_nil_of_mem (mem_trimLeft hx hblank)

theorem trimChars_ne_nil {n : String} (h : allBlank n = false) : trimChars n.toList ≠ [] := by
  obtain ⟨x, hx, hblank⟩ := exists_not_blank h
  exact List.ne_nil_of_mem (mem_trimChars hx hblank)

end Floorplan.Text
