import Floorplan.Proofs.Intent.Named
import Floorplan.Proofs.Pattern.Absent

set_option autoImplicit false

/-! # Additions to one floor

"add 3 restrooms in floor 5" is looked for with the digits of every script and of any length. If the
numbers fit words, components are added to the floor; if one does not, the text is passed on to the
patterns that do not look for a floor. A noun in the singular is refused there because of the words behind
it, but a plural is taken for a singular with those words not behind it. So if only the number of the
floor does not fit, components are added to every floor (`FloorAddition.editStructure?_iff`). -/

namespace Floorplan

/-- Does the intent add components to every floor? -/
def Intent.fillsEveryFloor : Intent → Bool
  | addComponents _ _ none => true
  | addMultiple counts => counts.restrooms.isSome || counts.corridors.isSome
  | _ => false

/-- A request to add components to one floor, with the numbers as they are typed. -/
structure FloorAddition where
  kind : ComponentKind
  plural : Bool
  count : String
  preposition : String
  floor : String

namespace FloorAddition

open Pattern

/-- The noun that the request uses. -/
def noun (a : FloorAddition) : String := a.kind.noun ++ if a.plural then "s" else ""

/-- The request as a text. -/
def text (a : FloorAddition) : String :=
  "add " ++ a.count ++ " " ++ a.noun ++ " " ++ a.preposition ++ " floor " ++ a.floor

/-- Both numbers are runs of digits, of any script, and one of the prepositions is used. -/
structure Typed (a : FloorAddition) : Prop where
  count_ne_nil : a.count.toList ≠ []
  count_digits : ∀ x ∈ a.count.toList, Text.isDigit x = true
  floor_ne_nil : a.floor.toList ≠ []
  floor_digits : ∀ x ∈ a.floor.toList, Text.isDigit x = true
  preposition : a.preposition ∈ ["to", "in", "on"]

/-- What the request asks for, if both numbers fit words. -/
def asked? (a : FloorAddition) : Option Intent :=
  (Text.word? a.count.toList).bind fun count =>
    (Text.word? a.floor.toList).map fun floor => .addComponents a.kind count (some floor)

/-- Only the number of the floor does not fit a word, and the noun is in the plural. -/
def Spills (a : FloorAddition) : Prop :=
  a.plural = true ∧ (Text.word? a.count.toList).isSome = true ∧ Text.word? a.floor.toList = none

instance (a : FloorAddition) : Decidable a.Spills :=
  inferInstanceAs (Decidable (_ ∧ _ ∧ _))

variable {a : FloorAddition}

/-! ## The text -/

/-- What the request has behind the noun. -/
def place (a : FloorAddition) : List Char :=
  ' ' :: (a.preposition.toList ++ ' ' :: ("floor".toList ++ ' ' :: a.floor.toList))

theorem toList_text (a : FloorAddition) : a.text.toList
    = "add".toList ++ ' ' :: (a.count.toList ++ ' ' :: (a.noun.toList ++ a.place)) := by
  simp [text, place]

/-- The letters of a request for components of a kind. -/
def letters : ComponentKind → String
  | .restroom => "adrestominfl"
  | .corridor => "adcoristnfl"

/-- The words of a request for components of a kind up to the noun. -/
def words (kind : ComponentKind) : List String := ["add", kind.noun, "s", ""]

theorem spelled_words (kind : ComponentKind) :
    ∀ w ∈ words kind, ∀ x ∈ w.toList, Text.spelled (letters kind) x = true := by
  cases kind <;> decide

theorem Typed.spelled_place (h : a.Typed) {ls : String}
    (hls : ∀ w ∈ ["to", "in", "on", "floor"], ∀ x ∈ w.toList, Text.spelled ls x = true) :
    ∀ x ∈ a.place, Text.spelled ls x = true := by
  have hprepositions : ∀ w ∈ ["to", "in", "on"], w ∈ ["to", "in", "on", "floor"] := by decide
  intro x hx
  simp only [place, List.mem_cons, List.mem_append] at hx
  rcases hx with rfl | hx | rfl | hx | rfl | hx
  · rfl
  · exact hls _ (hprepositions _ h.preposition) x hx
  · rfl
  · exact hls "floor" (by decide) x (by simpa using hx)
  · rfl
  · simp [Text.spelled, h.floor_digits x hx]

theorem Typed.spelled (h : a.Typed) : Text.Spelled (letters a.kind) a.text.toList := by
  refine ⟨by cases a.kind <;> decide, fun x hx => ?_⟩
  simp only [toList_text, noun, String.toList_append, List.mem_cons, List.mem_append] at hx
  rcases hx with hx | rfl | hx | rfl | (hx | hx) | hx
  · exact spelled_words a.kind "add" (by cases a.kind <;> decide) x (by simpa using hx)
  · rfl
  · simp [Text.spelled, h.count_digits x hx]
  · rfl
  · exact spelled_words a.kind _ (by cases a.kind <;> decide) x hx
  · exact spelled_words a.kind _ (by cases a.kind <;> cases a.plural <;> decide) x hx
  · exact h.spelled_place (by cases a.kind <;> decide) x hx

/-! ## Reading the request -/

variable {g : List (Nat × List Char × List Char)}

theorem Typed.leads_preposition (h : a.Typed) (s : List Char) :
    (choice [exactly "to", exactly "in", exactly "on"]).Leads ⟨a.preposition.toList ++ s, g⟩ ⟨s, g⟩ := by
  have hmem := h.preposition
  simp only [List.mem_cons, List.not_mem_nil, or_false] at hmem
  rcases hmem with hp | hp | hp <;>
    · rw [hp]
      rfl

theorem Typed.leads_onFloor (h : a.Typed) :
    Phrase.onFloor.Leads ⟨a.place, g⟩ ⟨' ' :: a.floor.toList, g⟩ := by
  have hprepositions : ∀ w ∈ ["to", "in", "on"], w.toList ≠ [] ∧
      ∀ x ∈ w.toList.head?, Text.isBlank x = false := by decide
  obtain ⟨hne, hhead⟩ := hprepositions _ h.preposition
  exact (leads_gap_before hne hhead _).andThen ((h.leads_preposition _).andThen
    ((leads_gap_before (by decide) (by decide) _).andThen ((leads_exactly "floor" _).andThen
      (leads_nothing _))))

theorem leads_nouns (kind : ComponentKind) (plural : Bool) (s : List Char) :
    (Phrase.nouns kind.noun).Leads
      ⟨(kind.noun ++ if plural then "s" else "").toList ++ ' ' :: s, g⟩ ⟨' ' :: s, g⟩ := by
  rw [String.toList_append, List.append_assoc]
  refine (leads_exactly kind.noun _).andThen (Leads.andThen ?_ (leads_nothing _))
  cases plural with
  | true => exact (leads_exactly "s" (' ' :: s)).optional
  | false =>
    exact leads_optional_of_not (not_reads_of_leftovers (s := [' ']) (by decide) s)

/-- The text behind the number of components. -/
def counted (a : FloorAddition) : List Char := ' ' :: (a.noun.toList ++ a.place)

theorem leads_counted (a : FloorAddition) :
    (sequence [space, optional (sequence [exactly "more", gap]), Phrase.nouns a.kind.noun]).Leads
      ⟨a.counted, g⟩ ⟨a.place, g⟩ := by
  have hmore : ∀ s r, ¬ (sequence [exactly "more", gap]).Reads (a.kind.noun.toList ++ s) r :=
    not_reads_of_leftovers (by cases a.kind <;> decide)
  have hspace := leads_space (g := g) a.counted
  have hnoun : a.noun.toList ++ a.place = a.kind.noun.toList ++
      ((if a.plural then "s" else "").toList ++ a.place) := by
    simp [noun]
  have htrim : Text.trimLeft a.counted = a.noun.toList ++ a.place := by
    have hhead := Text.isBlank_head_append (Phrase.noun_ne_nil a.kind) (Phrase.isBlank_head_noun a.kind)
      ((if a.plural then "s" else "").toList ++ a.place)
    rw [← hnoun] at hhead
    exact Text.trimLeft_of_head hhead
  rw [htrim] at hspace
  refine hspace.andThen ((leads_optional_of_not ?_).andThen ((leads_nouns a.kind a.plural _).andThen
    (leads_nothing _)))
  rw [hnoun]
  exact hmore _

theorem Typed.leads_add (h : a.Typed) : (Phrase.add a.kind.noun).Leads ⟨a.text.toList, []⟩
    ⟨a.place, [(1, a.count.toList ++ a.counted, a.counted)]⟩ := by
  have hcounted : ∀ x ∈ a.counted.head?, Text.isDigit x = false :=
    fun x hx => Option.some.inj hx ▸ by decide
  rw [toList_text]
  exact (leads_exactly "add" _).andThen
    ((leads_gap_before h.count_ne_nil (Text.isBlank_head_of_digits h.count_digits) _).andThen
    (((leads_count 1 h.count_ne_nil h.count_digits hcounted).andThen a.leads_counted).andThen
      (leads_nothing _)))

/-! ## What the request is taken for -/

theorem Typed.addToFloor?_eq (h : a.Typed) :
    Intent.addToFloor? a.kind a.text.toList = a.asked? := by
  have hleads : (Phrase.addToFloor a.kind.noun).Leads ⟨a.text.toList, []⟩ ⟨[],
      [(2, a.floor.toList, []), (1, a.count.toList ++ a.counted, a.counted)]⟩ :=
    h.leads_add.andThen (h.leads_onFloor.andThen
      ((leads_gap_of_head rfl (Text.isBlank_head_of_digits h.floor_digits)).andThen
        ((leads_count_atEnd 2 h.floor_ne_nil h.floor_digits).andThen (leads_nothing _))))
  have hfind := hleads.find?_eq
  generalize hm : (⟨_, _, _⟩ : Match) = m at hfind
  have hcount : m.number? 1 = Text.word? a.count.toList :=
    Match.number?_of_lookup (by rw [← hm]; rfl)
  have hfloor : m.number? 2 = Text.word? a.floor.toList :=
    Match.number?_of_lookup (t := []) (by rw [← hm, List.append_nil]; rfl)
  simp only [Intent.addToFloor?, hfind, hcount, hfloor, asked?, Option.bind_eq_bind, Option.bind_some,
    Option.map_eq_bind]
  rfl

/-- What the request is looked through for last is found once, in front of the floor. -/
theorem Typed.findAll_add (h : a.Typed) : (Phrase.add a.kind.noun).findAll a.text.toList
    = [⟨a.text.toList, a.place, [(1, a.count.toList ++ a.counted, a.counted)]⟩] := by
  have hplace : Text.Spelled "toinflr" a.place := ⟨by decide, h.spelled_place (by decide)⟩
  have hnone : (Phrase.add a.kind.noun).find? a.place = none :=
    hplace.find?_eq_none (by cases a.kind <;> decide +kernel)
  have hbehind : (Phrase.add a.kind.noun).findAll a.place = [] := by
    rw [findAll, hnone]
  have hlength : a.place.length < a.text.toList.length := by
    simp only [toList_text, List.length_append, List.length_cons]
    omega
  rw [findAll, h.leads_add.find?_eq]
  simp only [hlength, if_true, hbehind]

theorem getLast?_noun (a : FloorAddition) :
    a.noun.toList ≠ [] ∧ (a.noun.toList.getLast? == some 's') = a.plural := by
  obtain ⟨kind, plural, -, -, -⟩ := a
  have hnoun : ∀ plural : Bool, (kind.noun ++ if plural then "s" else "").toList ≠ [] ∧
      ((kind.noun ++ if plural then "s" else "").toList.getLast? == some 's') = plural := by
    cases kind <;> decide
  exact hnoun plural

/-- A plural is taken for a singular that the floor does not follow. -/
theorem Typed.addEverywhere?_eq (h : a.Typed) : Intent.addEverywhere? a.kind a.text.toList
    = if a.plural then (Text.word? a.count.toList).map (.addComponents a.kind · none) else none := by
  have hahead : Phrase.onFloor.startsText a.place = true :=
    startsText_iff.2 ⟨_, (h.leads_onFloor (g := [])).reads⟩
  have hletter : Phrase.onFloor.startsText ('s' :: a.place) = false := by
    rw [← Bool.not_eq_true, startsText_iff]
    rintro ⟨r, hread⟩
    exact not_reads_of_leftovers (s := ['s']) (by decide) a.place r hread
  have hlast : ∀ groups, ((Match.text ⟨a.text.toList, a.place, groups⟩).getLast? == some 's')
      = a.plural := by
    intro groups
    have htext : a.text.toList
        = (("add".toList ++ ' ' :: (a.count.toList ++ [' '])) ++ a.noun.toList) ++ a.place := by
      simp [toList_text]
    obtain ⟨hne, hnoun⟩ := a.getLast?_noun
    rw [Match.text, htext, Match.between_append, List.getLast?_append_of_ne_nil _ hne]
    exact hnoun
  simp only [Intent.addEverywhere?, findUnlessFollowed?, h.findAll_add, List.find?_singleton, hahead,
    hletter, hlast, Bool.not_true, Bool.not_false, Bool.false_or, Bool.and_true]
  cases a.plural with
  | false => rfl
  | true =>
    have hnumber : ∀ start stop : List Char,
        Match.number? ⟨start, stop, [(1, a.count.toList ++ a.counted, a.counted)]⟩ 1
          = Text.word? a.count.toList := fun _ _ => Match.number?_of_lookup rfl
    simp only [if_true, Option.bind_eq_bind, Option.bind_some, hnumber, Option.map_eq_bind]
    rfl

/-- Nothing is counted together with floors, because one is named. -/
theorem Typed.addMultiple?_eq_none (h : a.Typed) : Intent.addMultiple? a.text.toList = none := by
  have hmention : Phrase.floorMention.occursIn a.text.toList = true := by
    have hdigits := leads_oneOrMore (c := .digit) (r := []) (g := []) h.floor_ne_nil h.floor_digits
      (by simp)
    rw [List.append_nil] at hdigits
    have hleads : Phrase.floorMention.Leads ⟨a.preposition.toList ++ ' ' ::
        ("floor".toList ++ ' ' :: a.floor.toList), []⟩ ⟨[], []⟩ :=
      (h.leads_preposition _).andThen ((leads_gap_before (by decide) (by decide) _).andThen
        ((leads_exactly "floor" _).andThen
          ((leads_gap_of_head rfl (Text.isBlank_head_of_digits h.floor_digits)).andThen
            (hdigits.andThen (leads_nothing _)))))
    have hsuffix : a.preposition.toList ++ ' ' :: ("floor".toList ++ ' ' :: a.floor.toList)
        <:+ a.text.toList :=
      ⟨"add".toList ++ ' ' :: (a.count.toList ++ ' ' :: (a.noun.toList ++ [' '])), by
        simp [toList_text, place]⟩
    rw [occursIn, Option.isSome_iff_ne_none]
    exact find?_ne_none_iff.2 ⟨_, _, hsuffix, hleads.reads⟩
  have hgiven : ∀ floors, ¬ 1 < AddCounts.given ⟨floors, none, none⟩ := by
    intro floors
    cases floors <;> simp [AddCounts.given]
  simp only [Intent.addMultiple?, Intent.combinedCounts, hmention, if_true, hgiven, if_false, ite_self]

theorem Typed.otherKind (h : a.Typed) {kind : ComponentKind} (hkind : kind ≠ a.kind) :
    Intent.addToFloor? kind a.text.toList = none ∧
      Intent.addEverywhere? kind a.text.toList = none := by
  have hnone : (Phrase.addToFloor kind.noun).find? a.text.toList = none ∧
      (Phrase.add kind.noun).find? a.text.toList = none := by
    refine ⟨h.spelled.find?_eq_none ?_, h.spelled.find?_eq_none ?_⟩ <;>
      · revert hkind
        cases kind <;> cases a.kind <;> decide +kernel
  simp only [Intent.addToFloor?, Intent.addEverywhere?, hnone,
    findUnlessFollowed?_of_find? hnone.2 Phrase.onFloor]
  exact ⟨rfl, rfl⟩

/-- The request is taken for an addition to the floor, or else for one to every floor. -/
theorem Typed.editStructure?_eq (h : a.Typed) : Intent.editStructure? a.text.toList
    = a.asked?.or (if a.plural then
        (Text.word? a.count.toList).map (.addComponents a.kind · none) else none) := by
  have hbuilding : Text.containsAny ["building"] a.text.toList = false :=
    h.spelled.containsAny_eq_false (by cases a.kind <;> decide)
  have hfloors : Intent.addFloors? a.text.toList = none := by
    have hinfix : a.kind.noun.toList <:+: a.text.toList :=
      ⟨"add".toList ++ ' ' :: (a.count.toList ++ [' ']),
        (if a.plural then "s" else "").toList ++ a.place, by simp [toList_text, noun]⟩
    have hnoun : Text.containsAny ["restroom", "corridor"] a.text.toList = true :=
      Text.containsAny_of_infix (by cases a.kind <;> decide) hinfix
    simp only [Intent.addFloors?, hnoun, if_true]
  have hremove : Intent.removeFloors? a.text.toList = none := by
    have hverb : Text.containsAny ["remove"] a.text.toList = false :=
      h.spelled.containsAny_eq_false (by cases a.kind <;> decide)
    simp only [Intent.removeFloors?, hverb, Bool.false_and]
    rfl
  have hto := h.addToFloor?_eq
  have heverywhere := h.addEverywhere?_eq
  simp only [Intent.editStructure?, h.spelled.lowerChars_eq, hbuilding, Bool.and_false, Bool.false_and,
    hfloors, h.addMultiple?_eq_none, hremove, Option.orElse_eq_orElse, Option.orElse_eq_or,
    Option.or_none]
  cases hkind : a.kind with
  | restroom =>
    have hother : ComponentKind.corridor ≠ a.kind := by simp [hkind]
    obtain ⟨hto', heverywhere'⟩ := h.otherKind hother
    rw [hkind] at hto heverywhere
    rw [hto, heverywhere, hto', heverywhere', Option.none_or, Option.or_none]
    rfl
  | corridor =>
    have hother : ComponentKind.restroom ≠ a.kind := by simp [hkind]
    obtain ⟨hto', heverywhere'⟩ := h.otherKind hother
    rw [hkind] at hto heverywhere
    rw [hto, heverywhere, hto', heverywhere', Option.none_or, Option.none_or]
    rfl

/-- **An addition to one floor and the others.** Whatever digits the numbers are typed in, the request is
    taken for what it asks for, and for nothing if a number does not fit a word, if and only if it is not
    the case that only the number of the floor does not fit and the noun is in the plural; and in this
    case, and in no other, components are added to every floor. -/
theorem editStructure?_iff (h : a.Typed) :
    (Intent.editStructure? a.text.toList = a.asked? ↔ ¬ a.Spills) ∧
      ((∃ i, Intent.editStructure? a.text.toList = some i ∧ i.fillsEveryFloor = true) ↔ a.Spills) := by
  rw [h.editStructure?_eq, asked?, Spills]
  cases hcount : Text.word? a.count.toList with
  | none => simp
  | some count =>
    cases hfloor : Text.word? a.floor.toList with
    | none => cases a.plural <;> simp [Intent.fillsEveryFloor]
    | some floor => simp [Intent.fillsEveryFloor]

/-- Two restrooms for the third floor. -/
def twoRestrooms : FloorAddition := ⟨.restroom, true, "2", "in", "3"⟩

theorem typed_twoRestrooms : twoRestrooms.Typed :=
  ⟨by decide, by decide, by decide, by decide, by decide⟩

theorem twoRestrooms_editStructure? : twoRestrooms.Typed ∧
    Intent.editStructure? twoRestrooms.text.toList
      = some (.addComponents .restroom 2 (some 3)) := by
  refine ⟨typed_twoRestrooms, ?_⟩
  have hasked := (editStructure?_iff typed_twoRestrooms).1.2 (by decide)
  exact hasked

/-- Two restrooms for a floor with a number that fits no word. -/
def farTooHigh : FloorAddition := { twoRestrooms with floor := "99999999999999999999" }

theorem farTooHigh_everywhere :
    ¬ ∀ a : FloorAddition, a.Typed → Intent.editStructure? a.text.toList = a.asked? ∧
      ∀ i, Intent.editStructure? a.text.toList = some i → i.fillsEveryFloor = false := by
  intro hall
  have htyped : farTooHigh.Typed := ⟨by decide, by decide, by decide, by decide, by decide⟩
  obtain ⟨hasked, -⟩ := hall farTooHigh htyped
  rw [htyped.editStructure?_eq] at hasked
  exact absurd hasked (by decide)

end FloorAddition

end Floorplan
