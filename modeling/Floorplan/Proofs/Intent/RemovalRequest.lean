import Floorplan.Proofs.Building.Edit
import Floorplan.Proofs.Intent.Named
import Floorplan.Proofs.Pattern.Absent

set_option autoImplicit false

/-! # How many floors a request removes

"remove 2 floors" is recognised with the digits of every script, but as a number only ASCII digits are
read. What is not read, be it too large or in other digits, stands for as many floors as a word can count
(`Intent.removeFloors?_removalRequest`). So no floor too many is removed if the digits are ASCII, or if
the building has hardly more floors than the digits say; otherwise all floors but one are removed
(`removalRequest_leaves_iff`). -/

namespace Floorplan

/-- The request to remove as many floors as the digits say. -/
def removalRequest (digits : String) : String := "remove " ++ digits ++ " floors"

namespace Intent

open Pattern

variable {digits : String} {s : List Char}

/-! ## What the request is taken for -/

/-- The letters of the request. -/
def removalLetters : String := "removfls"

theorem toList_removalRequest (digits : String) : (removalRequest digits).toList
    = "remove".toList ++ ' ' :: (digits.toList ++ ' ' :: "floors".toList) := by
  simp [removalRequest]

theorem spelled_removalRequest (h : ∀ x ∈ digits.toList, Text.isDigit x = true) :
    Text.Spelled removalLetters (removalRequest digits).toList := by
  have hfixed : ∀ x ∈ "remove ".toList ++ " floors".toList,
      Text.spelled removalLetters x = true := by decide
  refine ⟨by decide, fun x hx => ?_⟩
  simp only [removalRequest, String.toList_append, List.mem_append] at hx
  rcases hx with (hx | hx) | hx
  · exact hfixed x (List.mem_append_left _ hx)
  · simp [Text.spelled, h x hx]
  · exact hfixed x (List.mem_append_right _ hx)

/-- A text of these letters has nothing that the other families look for. -/
theorem passedOn_of_spelled (h : Text.Spelled removalLetters s) : PassedOn s := by
  have hwords : ∀ w ∈ earlierWords, ∀ v ∈ [w], ∃ x ∈ v.toList, Text.spelled removalLetters x = false := by
    decide
  have hpatterns : ∀ ps : List Pattern,
      (∀ p ∈ ps, p.meets (Text.spelled removalLetters) = false) → ∀ p ∈ ps, p.find? s = none :=
    fun ps hps p hp => h.find?_eq_none (hps p hp)
  exact {
    words := fun w hw => by
      rw [h.lowerChars_eq]
      exact h.containsAny_eq_false (hwords w hw)
    switch := hpatterns Phrase.switch (by decide +kernel)
    renameVerb := h.find?_eq_none (by decide +kernel)
    renameFloor := hpatterns Phrase.renameFloor (by decide +kernel)
    renameBuilding := hpatterns Phrase.renameBuilding (by decide +kernel) }

/-- The digits are found as they stand. -/
theorem find?_removeFloors (hne : digits.toList ≠ [])
    (h : ∀ x ∈ digits.toList, Text.isDigit x = true) :
    ∃ m, Phrase.removeFloors.find? (removalRequest digits).toList = some m ∧
      m.group? 1 = some digits.toList := by
  have hfloors : ∀ g, (Phrase.nouns "floor").Leads ⟨"floors".toList, g⟩ ⟨[], g⟩ := fun _ => rfl
  have hleads : Phrase.removeFloors.Leads ⟨(removalRequest digits).toList, []⟩
      ⟨[], [(1, digits.toList ++ ' ' :: "floors".toList, ' ' :: "floors".toList)]⟩ := by
    rw [toList_removalRequest]
    exact (leads_exactly "remove" _).andThen
      ((leads_gap_before hne (Text.isBlank_head_of_digits h) _).andThen
      ((leads_count 1 hne h (by decide)).andThen ((leads_space _).andThen
        ((hfloors _).andThen (leads_nothing _)))))
  exact ⟨_, hleads.find?_eq, by simp [Match.group?]⟩

/-- How many floors the request asks to remove. -/
def removalCount (digits : String) : Nat := (Text.word? digits.toList).getD (wordLimit - 1)

/-- Only ASCII digits whose number fits a word ask for that number. -/
theorem removalCount_eq (hne : digits.toList ≠ []) : removalCount digits =
    if (∀ x ∈ digits.toList, Text.IsDigitChar x) ∧ Text.numberOf digits.toList < wordLimit then
      Text.numberOf digits.toList
    else wordLimit - 1 := by
  rw [removalCount, Text.word?, Text.decimal?_eq hne]
  by_cases hascii : ∀ x ∈ digits.toList, Text.IsDigitChar x
  · rw [if_pos hascii]
    by_cases hfits : Text.numberOf digits.toList < wordLimit
    · rw [if_pos ⟨hascii, hfits⟩, Option.filter_some, if_pos (decide_eq_true hfits), Option.getD_some]
    · rw [if_neg fun hboth => hfits hboth.2, Option.filter_some, if_neg (by simpa using hfits),
        Option.getD_none]
  · rw [if_neg hascii, if_neg fun hboth => hascii hboth.1]
    rfl

theorem removeFloors?_removalRequest (hne : digits.toList ≠ [])
    (h : ∀ x ∈ digits.toList, Text.isDigit x = true) :
    removeFloors? (removalRequest digits).toList = some (.removeFloors (removalCount digits)) := by
  have hverb : Text.containsAny ["remove"] (removalRequest digits).toList = true := by
    have hinfix : "remove".toList <:+: (removalRequest digits).toList := by
      rw [toList_removalRequest]
      exact (List.prefix_append _ _).isInfix
    exact Text.containsAny_of_infix (List.mem_singleton_self _) hinfix
  have hnoun : Text.containsAny ["floor"] (removalRequest digits).toList = true := by
    have hinfix : "floor".toList <:+: (removalRequest digits).toList :=
      ⟨"remove ".toList ++ digits.toList ++ [' '], ['s'], by simp [removalRequest]⟩
    exact Text.containsAny_of_infix (List.mem_singleton_self _) hinfix
  obtain ⟨m, hm, hgroup⟩ := find?_removeFloors hne h
  simp only [removeFloors?, hverb, hnoun, Bool.and_self, if_true, hm, Match.number?, hgroup,
    Option.bind_some]
  rfl

theorem editStructure?_removalRequest (hne : digits.toList ≠ [])
    (h : ∀ x ∈ digits.toList, Text.isDigit x = true) :
    editStructure? (removalRequest digits).toList = some (.removeFloors (removalCount digits)) := by
  have hspelled := spelled_removalRequest h
  have hadd : Text.containsAny ["add"] (removalRequest digits).toList = false :=
    hspelled.containsAny_eq_false (by decide)
  have hto : ∀ kind, addToFloor? kind (removalRequest digits).toList = none := by
    intro kind
    have hnone : (Phrase.addToFloor kind.noun).find? (removalRequest digits).toList = none :=
      hspelled.find?_eq_none (by cases kind <;> decide +kernel)
    rw [addToFloor?, hnone]
    rfl
  have hmore : ∀ noun ∈ ["restroom", "corridor", "floor"], ∀ ahead,
      (Phrase.add noun).findUnlessFollowed? ahead (removalRequest digits).toList = none := by
    have hmeets : ∀ noun ∈ ["restroom", "corridor", "floor"],
        (Phrase.add noun).meets (Text.spelled removalLetters) = false := by decide +kernel
    exact fun noun hnoun ahead =>
      findUnlessFollowed?_of_find? (hspelled.find?_eq_none (hmeets noun hnoun)) ahead
  have heverywhere : ∀ kind, addEverywhere? kind (removalRequest digits).toList = none := by
    intro kind
    rw [addEverywhere?, hmore kind.noun (by cases kind <;> decide)]
    rfl
  have hfloors : addFloors? (removalRequest digits).toList = none := by
    rw [addFloors?, hmore "floor" (by decide)]
    exact ite_self _
  have hmultiple : addMultiple? (removalRequest digits).toList = none := by
    simp only [addMultiple?, hadd, Bool.false_and]
    rfl
  simp only [editStructure?, hspelled.lowerChars_eq, hadd, Bool.false_and, hto, heverywhere, hfloors,
    hmultiple, removeFloors?_removalRequest hne h]
  rfl

/-! ## What is left -/

variable {c : Collection} {b : Building}

/-- As many floors are removed as are asked for, but not the last one. -/
theorem length_shortened (b : Building) (count : Nat) :
    ((shortened b count).1.getD b).floors.length
      = b.floors.length - min count (b.floors.length - 1) := by
  simp only [shortened]
  split
  · rename_i hzero
    rw [hzero]
    rfl
  · simp only [Option.getD_some, Building.synced, length_renumber, List.length_take,
      List.length_mergeSort]
    omega

theorem id_shortened (b : Building) (count : Nat) : ((shortened b count).1.getD b).id = b.id := by
  simp only [shortened]
  split <;> rfl

theorem active?_onActive (hb : c.active? = some b) {edit : Building → Option Building × Reply}
    (hid : ((edit b).1.getD b).id = b.id) :
    ((onActive c edit).collection.getD c).active? = some ((edit b).1.getD b) := by
  simp only [onActive, hb]
  cases hedit : (edit b).1 with
  | none => exact hb
  | some b' =>
    rw [hedit] at hid
    exact Collection.active?_withBuilding hb hid

/-- What dispatching the request leads to: the active building is shortened. -/
theorem dispatch_eq_shortened (digits : String) (hne : digits.toList ≠ [])
    (h : ∀ x ∈ digits.toList, Text.isDigit x = true) (hb : c.active? = some b) (clock : Clock)
    (stamps : Stamps) :
    ∃ o, dispatch c (removalRequest digits) clock stamps = .ok (o, stamps) ∧
      (o.collection.getD c).active? = some ((shortened b (removalCount digits)).1.getD b) := by
  have hparse : parse? (removalRequest digits) c.active?.isSome
      = some (.editStructure, .removeFloors (removalCount digits)) := by
    rw [parse?_editStructure (passedOn_of_spelled (spelled_removalRequest h)).recognize?_eq_none,
      editStructure?_removalRequest hne h]
    rfl
  refine ⟨onActive c (shortened · (removalCount digits)), ?_, active?_onActive hb (id_shortened b _)⟩
  rw [dispatch, hparse]
  exact carryOut_removeFloors c clock stamps _

end Intent

open Intent in
/-- **How many floors a request leaves.** Dispatching "remove D floors" with a run of digits of any script
    leaves at least as many floors as are left when the number of D is taken away, or one, if and only
    if the digits are ASCII or the building has at most one floor more than the number says. -/
theorem removalRequest_leaves_iff (digits : String) (hne : digits.toList ≠ [])
    (h : ∀ x ∈ digits.toList, Text.isDigit x = true) {c : Collection} {b : Building}
    (hb : c.active? = some b) (clock : Clock) (stamps : Stamps) :
    ∃ o stamps' b', dispatch c (removalRequest digits) clock stamps = .ok (o, stamps') ∧
      (o.collection.getD c).active? = some b' ∧
      (max (b.floors.length - Text.numberOf digits.toList) (min b.floors.length 1)
          ≤ b'.floors.length
        ↔ (∀ x ∈ digits.toList, Text.IsDigitChar x) ∨
          min b.floors.length wordLimit ≤ Text.numberOf digits.toList + 1) := by
  obtain ⟨o, hdispatch, hactive⟩ := dispatch_eq_shortened digits hne h hb clock stamps
  refine ⟨o, stamps, _, hdispatch, hactive, ?_⟩
  have hpos : 0 < wordLimit := by decide
  rw [length_shortened, removalCount_eq hne]
  generalize wordLimit = limit at hpos ⊢
  by_cases hascii : ∀ x ∈ digits.toList, Text.IsDigitChar x
  · refine iff_of_true ?_ (Or.inl hascii)
    by_cases hfits : Text.numberOf digits.toList < limit
    · rw [if_pos ⟨hascii, hfits⟩]
      omega
    · rw [if_neg fun hboth => hfits hboth.2]
      omega
  · rw [if_neg fun hboth => hascii hboth.1, or_iff_right hascii]
    omega

/-- A collection with one building of four floors. -/
def fourFloors : Collection := Collection.empty.withNewActive (.generate "building-1" "Tower" 4 1 1 1)

theorem fourFloors_removalRequest :
    "03".toList ≠ [] ∧ (∀ x ∈ "03".toList, Text.isDigit x = true) ∧
      fourFloors.active?.map (·.floors.length) = some 4 ∧
      ∃ o stamps' b', dispatch fourFloors (removalRequest "03") (.still 0) {} = .ok (o, stamps') ∧
        (o.collection.getD fourFloors).active? = some b' ∧ max (4 - 3) (min 4 1) ≤ b'.floors.length := by
  refine ⟨by decide, by decide, by decide, ?_⟩
  obtain ⟨o, stamps', b', hdispatch, hactive, hleft⟩ :=
    removalRequest_leaves_iff "03" (by decide) (by decide) (c := fourFloors) rfl (.still 0) {}
  exact ⟨o, stamps', b', hdispatch, hactive, hleft.2 (Or.inl (by decide))⟩

/-- In other digits than those of ASCII a request to remove one floor removes all but one. -/
theorem fourFloors_removalRequest_arabic :
    ¬ ∀ (digits : String) (c : Collection) (b : Building) (clock : Clock) (stamps : Stamps),
      digits.toList ≠ [] → (∀ x ∈ digits.toList, Text.isDigit x = true) → c.active? = some b →
      ∃ o stamps' b', dispatch c (removalRequest digits) clock stamps = .ok (o, stamps') ∧
        (o.collection.getD c).active? = some b' ∧
        max (b.floors.length - Text.numberOf digits.toList) (min b.floors.length 1)
          ≤ b'.floors.length := by
  intro hall
  obtain ⟨o, stamps', b', hdispatch, hactive, hleft⟩ :=
    hall "١" fourFloors _ (.still 0) {} (by decide) (by decide) rfl
  obtain ⟨o', hdispatch', hactive'⟩ :=
    Intent.dispatch_eq_shortened "١" (by decide) (by decide) (c := fourFloors) rfl
      (.still 0) {}
  cases hdispatch.symm.trans hdispatch'
  cases hactive.symm.trans hactive'
  rw [Intent.length_shortened] at hleft
  exact absurd hleft (by decide)

end Floorplan
