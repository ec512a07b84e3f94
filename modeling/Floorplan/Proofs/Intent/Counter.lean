import Floorplan.Proofs.Intent.CombinedRequest
import Floorplan.Proofs.Intent.Creation
import Floorplan.Proofs.Pattern.FirstCount

set_option autoImplicit false

/-! # Which number is counted

A counter reads how many of something a text asks for: for a building that is created in any letters, and
for additions in small letters, where "more" may stand behind the number. Whatever else the text holds, the
number is the first run of digits that a unit of the counter follows, it is that run as far as it goes, and
there is a count exactly if the run can be read as a number (`Counter.quantity?_eq_some_iff`). The floors
of an addition are looked for on one line behind the word "add".

A unit only has to begin where the number ends, so "3 floorplans" counts floors. -/

namespace Floorplan

open Pattern Text

/-- What reads a number of things from a text. -/
inductive Counter where
  /-- What a building is created with. -/
  | measure (m : Measure)
  /-- Components that are added. -/
  | components (kind : ComponentKind)
  /-- Floors that are added. -/
  | floors
  deriving DecidableEq

namespace Counter

variable {s t v : List Char} {w : String}

/-- The phrase that the counter looks for. -/
def pattern : Counter → Pattern
  | measure m => m.pattern
  | components kind => Phrase.moreOf kind.noun
  | floors => Phrase.addedFloors

/-- The words that can stand for what is counted. -/
def units : Counter → List String
  | measure m => m.units
  | components kind => [kind.noun, kind.plural]
  | floors => ["floor", "floors"]

/-- Can the word "more" stand in front of a unit? -/
def takesMore : Counter → Bool
  | measure _ => false
  | components _ | floors => true

/-- The text begins with the word: for a building that is created in letters of either case, and for
    additions in the letters of the word. -/
def Begins (c : Counter) (w : String) (t : List Char) : Prop :=
  match c with
  | measure _ => ∃ u r, t = u ++ r ∧ u.map foldLetter = w.toList.map foldLetter
  | components _ | floors => w.toList <+: t

/-- The text begins with a unit. -/
def BeginsWithUnit (c : Counter) (t : List Char) : Prop := ∃ w ∈ c.units, c.Begins w t

/-- A unit follows, perhaps behind white space, and perhaps behind "more" and further white space. -/
def Follows (c : Counter) (v : List Char) : Prop :=
  ∃ b t, v = b ++ t ∧ (∀ x ∈ b, isBlank x = true) ∧
    (c.BeginsWithUnit t ∨
      c.takesMore = true ∧ ∃ g t', t = "more".toList ++ (g ++ t') ∧ g ≠ [] ∧
        (∀ x ∈ g, isBlank x = true) ∧ c.BeginsWithUnit t')

/-- The run of digits is the one that the counter means. -/
def Means (c : Counter) (s d : List Char) : Prop :=
  match c with
  | measure _ | components _ => FirstCounted c.Follows s d
  | floors => FirstCountedBehind "add" c.Follows s d

/-! ## What the phrases have behind the number -/

theorem reads_word_append {a b : String} {r : List Char} :
    (word (a ++ b)).Reads t r ↔ ∃ t', (word a).Reads t t' ∧ (word b).Reads t' r := by
  simp only [reads_word, String.toList_append, List.map_append]
  constructor
  · rintro ⟨u, hu, rfl⟩
    obtain ⟨u₁, u₂, rfl, h₁, h₂⟩ := List.map_eq_append_iff.1 hu
    exact ⟨u₂ ++ r, ⟨u₁, h₁, List.append_assoc ..⟩, u₂, h₂, rfl⟩
  · rintro ⟨t', ⟨u₁, h₁, rfl⟩, u₂, h₂, rfl⟩
    exact ⟨u₁ ++ u₂, by rw [List.map_append, h₁, h₂], (List.append_assoc ..).symm⟩

theorem reads_singularOrPlural {r : List Char} :
    (Phrase.singularOrPlural w).Reads t r ↔ (word w).Reads t r ∨ (word (w ++ "s")).Reads t r := by
  rw [reads_word_append]
  constructor
  · rintro ⟨t₁, hw, t₂, hs | rfl, rfl⟩
    · exact Or.inr ⟨t₁, hw, hs⟩
    · exact Or.inl hw
  · rintro (hw | ⟨t₁, hw, hs⟩)
    · exact ⟨r, hw, r, Or.inr rfl, rfl⟩
    · exact ⟨t₁, hw, r, Or.inl hs, rfl⟩

theorem reads_nouns {r : List Char} :
    (Phrase.nouns w).Reads t r ↔ t = w.toList ++ r ∨ t = (w ++ "s").toList ++ r := by
  constructor
  · rintro ⟨t₁, hw, t₂, hs | rfl, rfl⟩
    · refine Or.inr ?_
      rw [reads_exactly.1 hw, reads_exactly.1 hs, String.toList_append, List.append_assoc]
    · exact Or.inl (reads_exactly.1 hw)
  · rintro (rfl | rfl)
    · exact ⟨r, reads_exactly.2 rfl, r, Or.inr rfl, rfl⟩
    · refine ⟨"s".toList ++ r, reads_exactly.2 ?_, r, Or.inl (reads_exactly.2 rfl), rfl⟩
      rw [String.toList_append, List.append_assoc]

/-- A measure is counted in its units and in nothing else. -/
theorem reads_forms (m : Measure) {r : List Char} :
    (choice m.forms).Reads t r ↔ ∃ w ∈ m.units, (word w).Reads t r := by
  have hne : m.forms ≠ [] := by cases m <;> simp [Measure.forms]
  rw [reads_choice hne]
  cases m <;> simp [Measure.forms, Measure.units, reads_singularOrPlural, or_assoc]

/-- What the phrase of a counter has behind the number. -/
def behind : Counter → Pattern
  | measure m => m.behind
  | components kind => CombinedAddition.behind kind.noun
  | floors => CombinedAddition.behind "floor"

theorem exists_reads_measure (m : Measure) :
    (∃ z, m.behind.Reads v z) ↔ (measure m).Follows v := by
  constructor
  · rintro ⟨z, t, ⟨b, hb, rfl⟩, t', hform, -⟩
    obtain ⟨w, hw, hword⟩ := (reads_forms m).1 hform
    obtain ⟨u, hu, rfl⟩ := reads_word.1 hword
    exact ⟨b, u ++ t', rfl, hb, Or.inl ⟨w, hw, u, t', rfl, hu⟩⟩
  · rintro ⟨b, t, rfl, hb, ⟨w, hw, u, r, rfl, hu⟩ | ⟨hmore, -⟩⟩
    · have hword : (word w).Reads (u ++ r) r := reads_word.2 ⟨u, hu, rfl⟩
      exact ⟨r, u ++ r, ⟨b, hb, rfl⟩, r, (reads_forms m).2 ⟨w, hw, hword⟩, rfl⟩
    · cases hmore

theorem exists_reads_nouns {c : Counter} (hunits : c.units = [w, w ++ "s"])
    (hmore : c.takesMore = true) (hbegins : ∀ w t, c.Begins w t ↔ w.toList <+: t) :
    (∃ z, (CombinedAddition.behind w).Reads v z) ↔ c.Follows v := by
  have hunit : ∀ t, c.BeginsWithUnit t ↔ ∃ r, (Phrase.nouns w).Reads t r := by
    intro t
    simp only [BeginsWithUnit, hunits, hbegins, List.mem_cons, List.not_mem_nil, or_false,
      exists_eq_or_imp, exists_eq_left, reads_nouns, exists_or]
    exact or_congr (exists_congr fun _ => eq_comm) (exists_congr fun _ => eq_comm)
  constructor
  · rintro ⟨z, t, ⟨b, hb, rfl⟩, t₁, hmaybe, t₂, hnoun, -⟩
    refine ⟨b, t, rfl, hb, ?_⟩
    rcases hmaybe with ⟨t₃, hword, t₄, hgap, hsame⟩ | hsame
    · obtain ⟨x, g, hblank, rfl⟩ := reads_gap.1 hgap
      refine Or.inr ⟨hmore, x :: g, t₄, reads_exactly.1 hword, by simp, hblank, ?_⟩
      exact (hunit t₄).2 ⟨t₂, hsame ▸ hnoun⟩
    · exact Or.inl ((hunit t).2 ⟨t₂, hsame ▸ hnoun⟩)
  · rintro ⟨b, t, rfl, hb, hdirect | ⟨-, g, t', rfl, hne, hg, hbehind⟩⟩
    · obtain ⟨r, hnoun⟩ := (hunit t).1 hdirect
      exact ⟨r, t, ⟨b, hb, rfl⟩, t, Or.inr rfl, r, hnoun, rfl⟩
    · obtain ⟨r, hnoun⟩ := (hunit t').1 hbehind
      obtain ⟨x, g, rfl⟩ := List.exists_cons_of_ne_nil hne
      have hgap : gap.Reads (x :: g ++ t') t' := reads_gap.2 ⟨x, g, hg, rfl⟩
      exact ⟨r, _, ⟨b, hb, rfl⟩, t', Or.inl ⟨_, reads_exactly.2 rfl, t', hgap, rfl⟩, r, hnoun, rfl⟩

theorem exists_reads_behind (c : Counter) : (∃ z, c.behind.Reads v z) ↔ c.Follows v := by
  cases c with
  | measure m => exact exists_reads_measure m
  | components kind => exact exists_reads_nouns rfl rfl fun _ _ => Iff.rfl
  | floors => exact exists_reads_nouns rfl rfl fun _ _ => Iff.rfl

theorem not_reads_behind_digit (c : Counter) {x : Char} (hx : isDigit x = true) (t z : List Char) :
    ¬ c.behind.Reads (x :: t) z := by
  cases c with
  | measure m => exact m.not_reads_behind_digit hx t z
  | components kind =>
    exact CombinedAddition.not_reads_behind_digit (Phrase.noun_component kind) hx t z
  | floors => exact CombinedAddition.not_reads_behind_digit Phrase.noun_floor hx t z

theorem isGroupless_behind (c : Counter) : c.behind.isGroupless = true := by
  cases c with
  | measure m => exact m.isGroupless_behind
  | components kind => exact CombinedAddition.isGroupless_behind kind
  | floors => decide

/-- The phrase of a counter has behind the number what the counter asks for. -/
theorem behind_follows (c : Counter) : Behind c.behind c.Follows where
  groupless := c.isGroupless_behind
  reads_iff _ := c.exists_reads_behind
  not_digit := by
    intro x t hx hfollows
    obtain ⟨z, hread⟩ := c.exists_reads_behind.2 hfollows
    exact c.not_reads_behind_digit hx t z hread

/-- The digits that the phrase of a counter finds. -/
theorem group?_eq_some_iff (c : Counter) (s d : List Char) :
    (c.pattern.find? s).bind (·.group? 1) = some d ↔ c.Means s d := by
  cases c with
  | measure m =>
    rw [show (measure m).pattern = m.pattern from rfl, m.pattern_eq]
    exact (behind_follows (measure m)).group?_count_eq_some_iff
  | components kind => exact (behind_follows (components kind)).group?_count_eq_some_iff
  | floors => exact (behind_follows floors).group?_behindWord_eq_some_iff

/-- **Which number is counted**: the run of digits that the counter means, if it can be read. -/
theorem quantity?_eq_some_iff (c : Counter) (s : List Char) (n : Nat) :
    Intent.quantity? c.pattern s = some n ↔ ∃ d, c.Means s d ∧ Text.word? d = some n := by
  have hquantity : Intent.quantity? c.pattern s
      = ((c.pattern.find? s).bind (·.group? 1)).bind Text.word? := (Option.bind_assoc ..).symm
  rw [hquantity, Option.bind_eq_some_iff]
  exact exists_congr fun d => and_congr_left fun _ => c.group?_eq_some_iff s d

/-- Twelve floors are counted and neither two of them nor the rooms before them. -/
example : Intent.quantity? (floors.pattern) "add a room for 3, then 12 more floors".toList = some 12 := by
  decide +kernel

end Counter

end Floorplan
