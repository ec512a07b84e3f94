import Floorplan.Proofs.Pattern.Reads
import Floorplan.Proofs.Text.Digit
import Floorplan.Text.Search

set_option autoImplicit false

/-! # Patterns that a text does not have

That a pattern is nowhere in a text is told by little of the text. A text that lacks a letter of every
wording of the pattern cannot have it (`Pattern.find?_eq_none_of_meets`). Where only the beginning of a
text is known, running the pattern on that beginning says what may be left of it
(`Pattern.Reads.leftovers`), and where nothing can be left the pattern is not read. And a pattern that has
a part is not in a text that does not have the part (`Pattern.find?_eq_none_of_part`).

The first two are computed, so they are decided for every phrase by evaluation. -/

namespace Floorplan

/-! ## Texts in few letters -/

/-- Can a text in which only these characters are met have one of the class? Letters are asked for as they
    are when case does not matter. -/
def CharClass.meets (met : Char → Bool) : CharClass → Bool
  | exactly c => met c
  | eitherCase c => met (foldLetter c)
  | oneOf cs => cs.any met
  | blank | digit | sameLine | noneOf _ => true

theorem CharClass.meets_of_contains {c : CharClass} {met : Char → Bool} {x : Char}
    (hmet : met x = true) (hfold : foldLetter x = x) (h : c.contains x = true) :
    c.meets met = true := by
  cases c with
  | exactly c =>
    obtain rfl : x = c := by simpa [contains] using h
    exact hmet
  | eitherCase c =>
    have hc : foldLetter x = foldLetter c := by simpa [contains] using h
    rw [meets, ← hc, hfold, hmet]
  | oneOf cs => exact List.any_eq_true.2 ⟨x, by simpa [contains] using h, hmet⟩
  | blank | digit | sameLine | noneOf => rfl

namespace Pattern

variable {p q : Pattern} {s r t : List Char} {met : Char → Bool}

/-- Can a text in which only these characters are met have the pattern? -/
def meets (met : Char → Bool) : Pattern → Bool
  | one c => c.meets met
  | andThen p q => p.meets met && q.meets met
  | orElse p q => p.meets met || q.meets met
  | group _ p => p.meets met
  | nothing | atEnd | many _ | few _ => true

theorem Reads.meets (hs : ∀ x ∈ s, met x = true ∧ foldLetter x = x) (h : p.Reads s r) :
    p.meets met = true := by
  induction p generalizing s r with
  | one c =>
    obtain ⟨x, hx, rfl⟩ := h
    obtain ⟨hmet, hfold⟩ := hs x List.mem_cons_self
    exact CharClass.meets_of_contains hmet hfold hx
  | andThen p q ihp ihq =>
    obtain ⟨t, hp, hq⟩ := h
    exact Bool.and_eq_true_iff.2 ⟨ihp hs hp, ihq (fun x hx => hs x (hp.suffix.subset hx)) hq⟩
  | orElse p q ihp ihq => exact Bool.or_eq_true_iff.2 (h.imp (ihp hs) (ihq hs))
  | group i p ih => exact ih hs h
  | nothing | atEnd | many | few => rfl

/-- **A pattern with other letters is not found.** -/
theorem find?_eq_none_of_meets (hs : ∀ x ∈ s, met x = true ∧ foldLetter x = x)
    (hp : p.meets met = false) : p.find? s = none := by
  refine find?_eq_none_iff.2 fun t ht r h => ?_
  rw [h.meets fun x hx => hs x (ht.subset hx)] at hp
  cases hp

/-! ## Texts of which the beginning is known -/

/-- What may be left of the beginning of a text when the pattern is read, nothing also if the pattern is
    read past it. -/
def leftovers : Pattern → List Char → List (List Char)
  | nothing, s => [s]
  | atEnd, s => if s.isEmpty then [[]] else []
  | one _, [] => [[]]
  | one c, x :: xs => if c.contains x then [xs] else []
  | many c, s | few c, s => c.restsGreedy s
  | andThen p q, s => (p.leftovers s).flatMap q.leftovers
  | orElse p q, s => p.leftovers s ++ q.leftovers s
  | group _ p, s => p.leftovers s

theorem suffix_of_mem_leftovers (h : t ∈ p.leftovers s) : t <:+ s := by
  have hruns : ∀ {c : CharClass} {s t : List Char}, t ∈ c.restsGreedy s → t <:+ s := by
    intro c s t ht
    obtain ⟨u, -, rfl⟩ := CharClass.mem_restsGreedy.1 ht
    exact List.suffix_append u t
  induction p generalizing s t with
  | nothing => exact List.mem_singleton.1 h ▸ List.suffix_rfl
  | atEnd =>
    obtain ⟨-, ht⟩ := List.mem_ite_nil_right.1 h
    exact List.mem_singleton.1 ht ▸ List.nil_suffix
  | one c =>
    cases s with
    | nil => exact List.mem_singleton.1 h ▸ List.nil_suffix
    | cons x xs =>
      obtain ⟨-, ht⟩ := List.mem_ite_nil_right.1 h
      exact List.mem_singleton.1 ht ▸ List.suffix_cons x xs
  | many c => exact hruns h
  | few c => exact hruns h
  | andThen p q ihp ihq =>
    obtain ⟨u, hu, ht⟩ := List.mem_flatMap.1 h
    exact (ihq ht).trans (ihp hu)
  | orElse p q ihp ihq => exact (List.mem_append.1 h).elim ihp ihq
  | group i p ih => exact ih h

/-- What is left of a text is what may be left of its beginning with the rest behind it, unless reading
    goes on past the beginning. -/
theorem Reads.leftovers (h : p.Reads (s ++ t) r) :
    (∃ u ∈ p.leftovers s, r = u ++ t) ∨ [] ∈ p.leftovers s ∧ r <:+ t := by
  have hruns : ∀ {c : CharClass} {s t r : List Char}, c.Runs (s ++ t) r →
      (∃ u ∈ c.restsGreedy s, r = u ++ t) ∨ [] ∈ c.restsGreedy s ∧ r <:+ t := by
    rintro c s t r ⟨v, hv, heq⟩
    rcases List.append_eq_append_iff.1 heq with ⟨w, rfl, rfl⟩ | ⟨w, rfl, rfl⟩
    · refine Or.inr ⟨CharClass.mem_restsGreedy.2 ⟨s, ?_, (List.append_nil s).symm⟩,
        List.suffix_append w r⟩
      exact fun x hx => hv x (List.mem_append_left w hx)
    · exact Or.inl ⟨w, CharClass.mem_restsGreedy.2 ⟨v, hv, rfl⟩, rfl⟩
  induction p generalizing s t r with
  | nothing => exact Or.inl ⟨s, List.mem_singleton_self s, h⟩
  | atEnd =>
    obtain ⟨hnil, rfl⟩ := h
    obtain ⟨rfl, rfl⟩ := List.append_eq_nil_iff.1 hnil
    exact Or.inl ⟨[], List.mem_singleton_self _, rfl⟩
  | one c =>
    obtain ⟨x, hx, heq⟩ := h
    cases s with
    | nil =>
      rw [List.nil_append] at heq
      exact Or.inr ⟨List.mem_singleton_self _, heq ▸ List.suffix_cons x r⟩
    | cons y s =>
      obtain ⟨rfl, rfl⟩ := List.cons.inj heq
      refine Or.inl ⟨s, ?_, rfl⟩
      rw [Pattern.leftovers, if_pos hx]
      exact List.mem_singleton_self s
  | many c => exact hruns h
  | few c => exact hruns h
  | andThen p q ihp ihq =>
    obtain ⟨v, hp, hq⟩ := h
    have hmem : ∀ {u w}, u ∈ p.leftovers s → w ∈ q.leftovers u → w ∈ (andThen p q).leftovers s :=
      fun hu hw => List.mem_flatMap.2 ⟨_, hu, hw⟩
    rcases ihp hp with ⟨u, hu, rfl⟩ | ⟨hend, hv⟩
    · exact (ihq hq).imp (fun ⟨w, hw, hr⟩ => ⟨w, hmem hu hw, hr⟩) fun ⟨hw, hr⟩ => ⟨hmem hu hw, hr⟩
    · -- Once past the beginning, nothing of it can be left.
      have hq' : q.Reads ([] ++ v) r := hq
      refine Or.inr ⟨hmem hend ?_, hq.suffix.trans hv⟩
      rcases ihq hq' with ⟨w, hw, -⟩ | ⟨hw, -⟩
      · rwa [List.suffix_nil.1 (suffix_of_mem_leftovers hw)] at hw
      · exact hw
  | orElse p q ihp ihq =>
    have hleft : ∀ {u}, u ∈ p.leftovers s → u ∈ (orElse p q).leftovers s :=
      fun hu => List.mem_append_left _ hu
    have hright : ∀ {u}, u ∈ q.leftovers s → u ∈ (orElse p q).leftovers s :=
      fun hu => List.mem_append_right _ hu
    rcases h with h | h
    · exact (ihp h).imp (fun ⟨u, hu, hr⟩ => ⟨u, hleft hu, hr⟩) (And.imp_left hleft)
    · exact (ihq h).imp (fun ⟨u, hu, hr⟩ => ⟨u, hright hu, hr⟩) (And.imp_left hright)
  | group i p ih => exact ih h

/-- A pattern that cannot go on in the beginning of a text is not read there. -/
theorem not_reads_of_leftovers (h : p.leftovers s = []) (t r : List Char) : ¬ p.Reads (s ++ t) r := by
  intro hread
  rcases hread.leftovers with ⟨u, hu, -⟩ | ⟨hu, -⟩ <;>
    · rw [h] at hu
      cases hu

/-- A pattern that is not in a text and cannot begin in front of it is not in both together. -/
theorem find?_append_eq_none (hs : ∀ u ∈ s.tails, u ≠ [] → p.leftovers u = [])
    (ht : p.find? t = none) : p.find? (s ++ t) = none := by
  rw [find?_eq_none_iff] at ht ⊢
  intro v hv r h
  rcases Text.suffix_append_cases hv with hin | ⟨u, hne, hu, rfl⟩
  · exact ht v hin r h
  · exact not_reads_of_leftovers (hs u ((List.mem_tails u s).2 hu) hne) t r h

/-! ## Parts -/

/-- What a sequence is read in has all its parts. -/
theorem Reads.exists_of_mem {ps : List Pattern} (h : (sequence ps).Reads s r) (hp : p ∈ ps) :
    ∃ t z, t <:+ s ∧ p.Reads t z := by
  induction ps generalizing s with
  | nil => cases hp
  | cons q ps ih =>
    obtain ⟨v, hq, hps⟩ := h
    rcases List.mem_cons.1 hp with rfl | hp
    · exact ⟨s, v, List.suffix_rfl, hq⟩
    · obtain ⟨t, z, ht, hz⟩ := ih hps hp
      exact ⟨t, z, ht.trans hq.suffix, hz⟩

theorem find?_eq_none_of_part {ps : List Pattern} (hp : p ∈ ps) (h : p.find? s = none) :
    (sequence ps).find? s = none := by
  rw [find?_eq_none_iff] at h ⊢
  intro t ht r hread
  obtain ⟨v, z, hv, hz⟩ := hread.exists_of_mem hp
  exact h v (hv.trans ht) z hz

theorem findUnlessFollowed?_of_find? (h : p.find? s = none) (ahead : Pattern) :
    p.findUnlessFollowed? ahead s = none := by
  have hall : p.findAll s = [] := by
    rw [findAll, h]
  rw [findUnlessFollowed?, hall, List.find?_nil]

end Pattern

/-! ## Texts of small letters and digits -/

namespace Text

variable {letters : String} {s : List Char}

/-- Is this a blank, one of the letters or a digit? -/
def spelled (letters : String) (x : Char) : Bool :=
  x = ' ' || letters.toList.contains x || isDigit x

/-- A text of small letters, of which it has no others than these, blanks and digits. -/
structure Spelled (letters : String) (s : List Char) : Prop where
  small : ∀ x ∈ letters.toList, foldLetter x = x ∧ smallForm x = [x]
  spelled : ∀ x ∈ s, Text.spelled letters x = true

namespace Spelled

/-- The text is the same in lower case and when case does not matter. -/
theorem fixed (h : Spelled letters s) : ∀ x ∈ s, foldLetter x = x ∧ smallForm x = [x] := by
  intro x hx
  have hspelled := h.spelled x hx
  simp only [Text.spelled, Bool.or_eq_true, decide_eq_true_eq, List.contains_iff_mem] at hspelled
  rcases hspelled with (rfl | hletter) | hdigit
  · decide
  · exact h.small x hletter
  · exact ⟨foldLetter_of_isDigit hdigit, smallForm_of_isDigit hdigit⟩

theorem lowerChars_eq (h : Spelled letters s) : lowerChars s = s :=
  lowerChars_eq_self fun x hx => (h.fixed x hx).2

/-- Words with other letters do not occur. -/
theorem containsAny_eq_false (h : Spelled letters s) {ws : List String}
    (hws : ∀ w ∈ ws, ∃ x ∈ w.toList, Text.spelled letters x = false) : containsAny ws s = false := by
  rw [Bool.eq_false_iff, ne_eq, containsAny, List.any_eq_true]
  rintro ⟨w, hw, hocc⟩
  obtain ⟨x, hx, hnot⟩ := hws w hw
  rw [h.spelled x ((containsChars_iff.1 hocc).subset hx)] at hnot
  cases hnot

/-- Patterns with other letters are not found. -/
theorem find?_eq_none (h : Spelled letters s) {p : Pattern}
    (hp : p.meets (Text.spelled letters) = false) : p.find? s = none :=
  Pattern.find?_eq_none_of_meets (fun x hx => ⟨h.spelled x hx, (h.fixed x hx).1⟩) hp

end Spelled

end Text

end Floorplan
