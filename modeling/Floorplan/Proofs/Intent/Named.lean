import Floorplan.Proofs.Intent.Effect
import Floorplan.Proofs.Intent.Phrase
import Floorplan.Proofs.Text.Lowercase

set_option autoImplicit false

/-! # The names that buildings are given

Buildings get their names from the text by which they are made or renamed. Such a name is a piece of that
text, it is not empty, it has no white space around it and no quotes in it, and because the text was
not taken for a request for help or for the list of buildings, neither is its name (`Nameable`,
`Intent.parse?_nameable`). -/

namespace Floorplan

open Phrase (Unquoted)
open Text (Mentions)

variable {s t : List Char}

namespace Intent

/-! ## Which family recognises what -/

/-- The family that recognises requests of this kind. -/
def family : Intent → Family
  | showCommands => .showCommands
  | listBuildings => .listBuildings
  | switchBuilding _ => .switchBuilding
  | bulkRename _ _ => .bulkRename
  | renameComponent .restroom _ _ _ => .restroomRename
  | renameComponent .corridor _ _ _ => .corridorRename
  | renameFloor _ _ => .floorRename
  | renameBuilding _ => .buildingRename
  | createBuilding _ => .createBuilding
  | addFloors _ | addComponents _ _ _ | addMultiple _ | removeFloors _ => .editStructure

theorem family_addToFloor? {kind : ComponentKind} {i : Intent} (h : addToFloor? kind s = some i) :
    i.family = .editStructure := by
  simp only [addToFloor?, Option.bind_eq_bind, Option.bind_eq_some_iff] at h
  obtain ⟨m, -, count, -, floor, -, h⟩ := h
  cases h
  rfl

theorem family_addEverywhere? {kind : ComponentKind} {i : Intent}
    (h : addEverywhere? kind s = some i) : i.family = .editStructure := by
  simp only [addEverywhere?, Option.bind_eq_bind, Option.bind_eq_some_iff] at h
  obtain ⟨m, -, count, -, h⟩ := h
  cases h
  rfl

theorem family_addFloors? {i : Intent} (h : addFloors? s = some i) : i.family = .editStructure := by
  simp only [addFloors?, Option.bind_eq_bind, Option.ite_none_left_eq_some,
    Option.bind_eq_some_iff] at h
  obtain ⟨-, m, -, count, -, h⟩ := h
  cases h
  rfl

theorem family_addMultiple? {i : Intent} (h : addMultiple? s = some i) :
    i.family = .editStructure := by
  simp only [addMultiple?, Option.ite_none_right_eq_some] at h
  obtain ⟨-, -, h⟩ := h
  cases h
  rfl

theorem family_removeFloors? {i : Intent} (h : removeFloors? s = some i) :
    i.family = .editStructure := by
  simp only [removeFloors?, Option.ite_none_right_eq_some] at h
  obtain ⟨-, h⟩ := h
  split at h <;> cases h <;> rfl

theorem family_editStructure? {i : Intent} (h : editStructure? s = some i) :
    i.family = .editStructure := by
  simp only [editStructure?, Option.ite_none_left_eq_some, Option.orElse_eq_orElse,
    Option.orElse_eq_or, Option.or_eq_some_iff] at h
  obtain ⟨-, h⟩ := h
  rcases h with h | ⟨-, h | ⟨-, h | ⟨-, h | ⟨-, h | ⟨-, h | ⟨-, h⟩⟩⟩⟩⟩⟩
  · exact family_addToFloor? h
  · exact family_addToFloor? h
  · exact family_addEverywhere? h
  · exact family_addEverywhere? h
  · exact family_addFloors? h
  · exact family_addMultiple? h
  · exact family_removeFloors? h

theorem family_bulkRename? {i : Intent} (h : bulkRename? s = some i) : i.family = .bulkRename := by
  have hcomponents : ∀ {kind m}, bulkComponents? kind m = some i → i.family = .bulkRename := by
    intro kind m h
    simp only [bulkComponents?, Option.bind_eq_bind, Option.bind_eq_some_iff] at h
    obtain ⟨floor, -, names, -, h⟩ := h
    cases h
    rfl
  simp only [bulkRename?, Option.ite_none_right_eq_some] at h
  obtain ⟨-, h⟩ := h
  split at h
  · obtain ⟨names, -, rfl⟩ := Option.map_eq_some_iff.1 h
    rfl
  · split at h
    · exact hcomponents h
    · obtain ⟨m, -, h⟩ := Option.bind_eq_some_iff.1 h
      exact hcomponents h

theorem exists_of_renameComponent? {kind : ComponentKind} {i : Intent}
    (h : renameComponent? kind s = some i) :
    ∃ floor index name, i = .renameComponent kind floor index name := by
  unfold renameComponent? at h
  simp only [Option.bind_eq_bind] at h
  split at h
  · simp only [Option.bind_eq_some_iff] at h
    obtain ⟨floor, -, index, -, name, -, h⟩ := h
    cases h
    exact ⟨floor, index, name, rfl⟩
  · simp only [Option.bind_eq_some_iff] at h
    obtain ⟨m, -, floor, -, index, -, name, -, h⟩ := h
    cases h
    exact ⟨floor, index, name, rfl⟩

theorem family_renameFloor? {i : Intent} (h : renameFloor? s = some i) : i.family = .floorRename := by
  obtain ⟨p, -, h⟩ := List.exists_of_findSome?_eq_some h
  simp only [Option.bind_eq_bind, Option.bind_eq_some_iff] at h
  obtain ⟨m, -, floor, -, name, -, h⟩ := h
  cases h
  rfl

/-- The building that is asked for by default, or one with the name that the text gives if any. -/
theorem exists_of_createBuilding? {i : Intent} (h : createBuilding? s = some i) :
    ∃ spec, i = .createBuilding spec ∧
      (spec.name = some defaultName ∨ spec.name = creationName? s) := by
  simp only [createBuilding?] at h
  split at h
  · cases h
    exact ⟨defaultSpec, rfl, Or.inl rfl⟩
  · have hnamed : (creationName? s).map (fun n => createBuilding ⟨some n, 3, 2, 2, 2⟩) = some i →
        ∃ spec, i = .createBuilding spec ∧
          (spec.name = some defaultName ∨ spec.name = creationName? s) := by
      intro h
      obtain ⟨n, hn, rfl⟩ := Option.map_eq_some_iff.1 h
      exact ⟨_, rfl, Or.inr hn.symm⟩
    split at h
    · split at h
      · split at h
        · cases h
          exact ⟨_, rfl, Or.inr rfl⟩
        · exact hnamed h
      · exact hnamed h
    · cases h

/-- The family that recognises a text can be told from the intent. -/
theorem family_of_recognize? {f : Family} {i : Intent} (h : f.recognize? s = some i) :
    i.family = f := by
  cases f with
  | showCommands =>
    obtain ⟨-, h⟩ := Option.ite_none_right_eq_some.1 h
    cases h
    rfl
  | listBuildings =>
    obtain ⟨-, h⟩ := Option.ite_none_right_eq_some.1 h
    cases h
    rfl
  | switchBuilding =>
    obtain ⟨n, -, rfl⟩ := Option.map_eq_some_iff.1 h
    rfl
  | bulkRename => exact family_bulkRename? h
  | restroomRename =>
    obtain ⟨_, _, _, rfl⟩ := exists_of_renameComponent? h
    rfl
  | corridorRename =>
    obtain ⟨_, _, _, rfl⟩ := exists_of_renameComponent? h
    rfl
  | floorRename => exact family_renameFloor? h
  | buildingRename =>
    obtain ⟨n, -, rfl⟩ := Option.map_eq_some_iff.1 h
    rfl
  | createBuilding =>
    obtain ⟨_, rfl, -⟩ := exists_of_createBuilding? h
    rfl
  | editStructure => exact family_editStructure? h

/-! ## Requests that go before all others -/

theorem showCommands?_eq_none_iff : showCommands? s = none ↔
    ¬ (Mentions ["show", "list", "what"] s ∧ Mentions ["command", "help", "can you do"] s) := by
  rw [← Text.containsAny_lowerChars (by decide), ← Text.containsAny_lowerChars (by decide),
    ← Bool.and_eq_true]
  simp only [showCommands?, ite_eq_right_iff, reduceCtorEq, imp_false]

theorem listBuildings?_eq_none_iff : listBuildings? s = none ↔
    ¬ (Mentions ["list"] s ∧ Mentions ["building", "all"] s) ∧
      Text.lowerChars s ≠ "buildings".toList ∧ ¬ Mentions ["show all buildings"] s := by
  rw [← Text.containsAny_lowerChars (by decide), ← Text.containsAny_lowerChars (by decide),
    ← Text.containsAny_lowerChars (by decide), ← Bool.and_eq_true]
  simp only [listBuildings?, ite_eq_right_iff, reduceCtorEq, imp_false, Bool.or_eq_true,
    decide_eq_true_eq, not_or, and_assoc, ne_eq]

/-- A text in which neither help nor the list of buildings is asked for. -/
structure Quiet (s : List Char) : Prop where
  help : ¬ (Mentions ["show", "list", "what"] s ∧ Mentions ["command", "help", "can you do"] s)
  listing : ¬ (Mentions ["list"] s ∧ Mentions ["building", "all"] s)
  showing : ¬ Mentions ["show all buildings"] s

theorem Quiet.mono (hst : s <:+: t) (h : Quiet t) : Quiet s :=
  ⟨fun hs => h.help (hs.imp (.mono hst) (.mono hst)),
    fun hs => h.listing (hs.imp (.mono hst) (.mono hst)), fun hs => h.showing (.mono hst hs)⟩

/-- The families are tried in their order; the first three do not need an active building. -/
theorem parse?_eq (text : String) (hasActive : Bool) : parse? text hasActive =
    ((showCommands? text.toList).map (Family.showCommands, ·)).or
      (((listBuildings? text.toList).map (Family.listBuildings, ·)).or
        (((switchBuilding? text.toList).map (Family.switchBuilding, ·)).or
          (((Family.all.drop 3).filter fun f => hasActive || !f.needsActive).findSome? fun f =>
            (f.recognize? text.toList).map (f, ·)))) := by
  have hcons : ∀ (g : Family → Option (Family × Intent)) (f : Family) (fs : List Family),
      (f :: fs).findSome? g = (g f).or (fs.findSome? g) := by
    intro g f fs
    rw [List.findSome?_cons]
    cases g f <;> rfl
  have horder : (Family.all.filter fun f => hasActive || !f.needsActive)
      = .showCommands :: .listBuildings :: .switchBuilding ::
        (Family.all.drop 3).filter fun f => hasActive || !f.needsActive := by
    cases hasActive <;> rfl
  rw [parse?, horder, hcons, hcons, hcons]
  rfl

/-- A text in which no other family recognises anything is a structural edit or nothing. -/
theorem parse?_editStructure {text : String}
    (h : ∀ f ∈ Family.all.dropLast, f.recognize? text.toList = none) (hasActive : Bool) :
    parse? text hasActive = (editStructure? text.toList).map (Family.editStructure, ·) := by
  have horder : (Family.all.filter fun f => hasActive || !f.needsActive)
      = (Family.all.dropLast.filter fun f => hasActive || !f.needsActive) ++ [.editStructure] := by
    cases hasActive <;> rfl
  have hother : ((Family.all.dropLast.filter fun f => hasActive || !f.needsActive).findSome? fun f =>
      (f.recognize? text.toList).map (f, ·)) = none := by
    refine List.findSome?_eq_none_iff.2 fun f hf => ?_
    rw [h f (List.mem_of_mem_filter hf)]
    rfl
  rw [parse?, horder, List.findSome?_append, hother, Option.none_or, List.findSome?_singleton]
  rfl

theorem firstName?_of_find? {ps : List Pattern} (h : ∀ p ∈ ps, p.find? s = none) :
    firstName? ps s = none :=
  List.findSome?_eq_none_iff.2 fun p hp => by rw [h p hp]; rfl

/-- Words of which the families that go before the last need at least one, if not a pattern. -/
def earlierWords : List String :=
  ["show", "list", "what", "rename all", "change all", "default", "create", "build"]

/-- Nothing of what the families look for that go before the last is in the text. -/
structure PassedOn (s : List Char) : Prop where
  words : ∀ w ∈ earlierWords, Text.containsAny [w] (Text.lowerChars s) = false
  switch : ∀ p ∈ Phrase.switch, p.find? s = none
  renameVerb : Phrase.renameVerb.find? s = none
  renameFloor : ∀ p ∈ Phrase.renameFloor, p.find? s = none
  renameBuilding : ∀ p ∈ Phrase.renameBuilding, p.find? s = none

namespace PassedOn

/-- Longer words are not in the text either. -/
theorem containsAny_eq_false (h : PassedOn s) (ws : List String)
    (hws : ∀ w ∈ ws, ∃ v ∈ earlierWords, v.toList <:+: w.toList) :
    Text.containsAny ws (Text.lowerChars s) = false := by
  rw [Bool.eq_false_iff, ne_eq, Text.containsAny, List.any_eq_true]
  rintro ⟨w, hw, hocc⟩
  obtain ⟨v, hv, hpart⟩ := hws w hw
  have hnone := h.words v hv
  rw [Text.containsAny_of_infix (List.mem_singleton_self v)
    (hpart.trans (Text.containsChars_iff.1 hocc))] at hnone
  cases hnone

theorem renameComponent?_eq_none (h : PassedOn s) (kind : ComponentKind) :
    renameComponent? kind s = none := by
  have hfirst : (Phrase.renameFloorFirst kind).find? s = none :=
    Pattern.find?_eq_none_of_part List.mem_cons_self h.renameVerb
  have hname : (Phrase.renameNameFirst kind).find? s = none :=
    Pattern.find?_eq_none_of_part List.mem_cons_self h.renameVerb
  simp only [renameComponent?, hfirst, hname]
  rfl

/-- **No family but the last recognises anything** in such a text. -/
theorem recognize?_eq_none (h : PassedOn s) : ∀ f ∈ Family.all.dropLast, f.recognize? s = none := by
  intro f hf
  cases f with
  | showCommands =>
    simp only [Family.recognize?, showCommands?,
      h.containsAny_eq_false ["show", "list", "what"] (by decide)]
    rfl
  | listBuildings =>
    have hne : Text.lowerChars s ≠ "buildings".toList := by
      intro heq
      have hnone := h.containsAny_eq_false ["buildings"] (by decide)
      rw [heq] at hnone
      revert hnone
      decide
    simp only [Family.recognize?, listBuildings?, hne,
      h.containsAny_eq_false ["list"] (by decide),
      h.containsAny_eq_false ["show all buildings"] (by decide)]
    rfl
  | switchBuilding =>
    simp only [Family.recognize?, switchBuilding?, firstName?_of_find? h.switch, Option.map_none]
  | bulkRename =>
    simp only [Family.recognize?, bulkRename?,
      h.containsAny_eq_false ["rename all", "change all"] (by decide)]
    rfl
  | restroomRename => exact h.renameComponent?_eq_none .restroom
  | corridorRename => exact h.renameComponent?_eq_none .corridor
  | floorRename =>
    refine List.findSome?_eq_none_iff.2 fun p hp => ?_
    rw [h.renameFloor p hp]
    rfl
  | buildingRename =>
    simp only [Family.recognize?, renameBuilding?, firstName?_of_find? h.renameBuilding,
      Option.map_none]
  | createBuilding =>
    simp only [Family.recognize?, createBuilding?, asksToCreate,
      h.containsAny_eq_false ["default"] (by decide),
      h.containsAny_eq_false ["create", "build"] (by decide),
      h.containsAny_eq_false ["building"] (by decide), Bool.and_false]
    rfl
  | editStructure => exact absurd hf (by decide)

end PassedOn

theorem recognize?_of_parse? {text : String} {hasActive : Bool} {f : Family} {i : Intent}
    (h : parse? text hasActive = some (f, i)) : f.recognize? text.toList = some i := by
  obtain ⟨f', -, h⟩ := List.exists_of_findSome?_eq_some h
  obtain ⟨i', hi', heq⟩ := Option.map_eq_some_iff.1 h
  cases heq
  exact hi'

theorem quiet_of_parse? {text : String} {hasActive : Bool} {f : Family} {i : Intent}
    (h : parse? text hasActive = some (f, i)) (hhelp : f ≠ .showCommands)
    (hlist : f ≠ .listBuildings) : Quiet text.toList := by
  rw [parse?_eq] at h
  have hnone : showCommands? text.toList = none ∧ listBuildings? text.toList = none := by
    cases hs : showCommands? text.toList with
    | some i' =>
      rw [hs] at h
      cases h
      exact absurd rfl hhelp
    | none =>
      cases hl : listBuildings? text.toList with
      | some i' =>
        rw [hs, hl] at h
        cases h
        exact absurd rfl hlist
      | none => exact ⟨rfl, rfl⟩
  obtain ⟨hlisting, -, hshowing⟩ := listBuildings?_eq_none_iff.1 hnone.2
  exact ⟨showCommands?_eq_none_iff.1 hnone.1, hlisting, hshowing⟩

/-! ## The names in a text -/

/-- The name that a building is given if the intent is carried out. -/
def givenName? : Intent → Option String
  | renameBuilding name => some name
  | createBuilding spec => some (spec.name.getD defaultName)
  | _ => none

/-- The name can have been given to a building by a line of text. -/
structure Nameable (n : String) : Prop where
  ne_nil : n.toList ≠ []
  trimmed : Text.Trimmed n.toList
  unquoted : ∀ x ∈ n.toList, Unquoted x
  quiet : Quiet n.toList

theorem nameable_of_nameOf {n : String} (h : NameOf Unquoted s n) (hs : Quiet s) : Nameable n :=
  ⟨h.ne_nil, h.trimmed, h.chars, hs.mono h.piece⟩

/-- The first pattern that is found gives the name. -/
theorem firstName?_eq_some {before after : List Pattern} {p : Pattern} {m : Match} {n : String}
    (hbefore : ∀ p ∈ before, p.find? s = none) (hp : p.find? s = some m) (hn : m.name? 1 = some n) :
    firstName? (before ++ p :: after) s = some n := by
  refine List.findSome?_eq_some_iff.2 ⟨before, p, after, rfl, ?_, fun q hq => ?_⟩
  · rw [hp, Option.bind_some, hn]
  · rw [hbefore q hq]
    rfl

theorem nameOf_of_firstName? {ps : List Pattern} {n : String}
    (hps : ∀ p ∈ ps, p.GroupsWithin Unquoted) (h : firstName? ps s = some n) :
    NameOf Unquoted s n := by
  obtain ⟨p, hp, h⟩ := List.exists_of_findSome?_eq_some h
  obtain ⟨m, hm, hn⟩ := Option.bind_eq_some_iff.1 h
  exact Match.name?_of_find? (hps p hp) hm hn

theorem nameOf_of_renameFloor? {floor : Nat} {n : String}
    (h : renameFloor? s = some (.renameFloor floor n)) :
    NameOf Unquoted s n := by
  obtain ⟨p, hp, h⟩ := List.exists_of_findSome?_eq_some h
  simp only [Option.bind_eq_bind, Option.bind_eq_some_iff] at h
  obtain ⟨m, hm, _, -, _, hname, h⟩ := h
  cases h
  exact Match.name?_of_find? (Phrase.groupsWithin_renameFloor p hp) hm hname

theorem nameOf_of_renameComponent? {kind : ComponentKind} {floor index : Nat} {n : String}
    (h : renameComponent? kind s = some (.renameComponent kind floor index n)) :
    NameOf Unquoted s n := by
  unfold renameComponent? at h
  simp only [Option.bind_eq_bind] at h
  split at h
  · rename_i m hm
    simp only [Option.bind_eq_some_iff] at h
    obtain ⟨_, -, _, -, _, hname, h⟩ := h
    cases h
    exact Match.name?_of_find? (Phrase.groupsWithin_renameFloorFirst kind) hm hname
  · simp only [Option.bind_eq_some_iff] at h
    obtain ⟨m, hm, _, -, _, -, _, hname, h⟩ := h
    cases h
    exact Match.name?_of_find? (Phrase.groupsWithin_renameNameFirst kind) hm hname

/-- The name of the building to be created is found by a phrase. -/
theorem nameOf_of_creationName? {n : String} (h : creationName? s = some n) : NameOf Unquoted s n := by
  obtain ⟨m, hm, hname⟩ := Option.bind_eq_some_iff.1 h
  obtain ⟨p, hp, hfind⟩ := List.exists_of_findSome?_eq_some hm
  exact Match.name?_of_find? (Phrase.groupsWithin_createName p hp) hfind hname

theorem nameable_defaultName : Nameable defaultName := by
  refine ⟨by decide, ⟨by decide, by decide⟩, ?_, ⟨?_, ?_, ?_⟩⟩
  · decide
  · decide
  · decide
  · decide

/-- **A name that a text gives to a building** is nameable. -/
theorem parse?_nameable {text : String} {hasActive : Bool} {f : Family} {i : Intent} {n : String}
    (h : parse? text hasActive = some (f, i)) (hn : i.givenName? = some n) : Nameable n := by
  have hrecognized := recognize?_of_parse? h
  have hfamily := family_of_recognize? hrecognized
  have hquiet : Quiet text.toList := by
    refine quiet_of_parse? h ?_ ?_ <;>
      · rintro rfl
        cases i <;> simp [family, givenName?] at hfamily hn
  cases i with
  | renameBuilding name =>
    cases hn
    subst hfamily
    obtain ⟨n, hname, heq⟩ := Option.map_eq_some_iff.1 hrecognized
    cases heq
    exact nameable_of_nameOf (nameOf_of_firstName? Phrase.groupsWithin_renameBuilding hname) hquiet
  | createBuilding spec =>
    cases hn
    subst hfamily
    obtain ⟨spec', heq, hname⟩ := exists_of_createBuilding? hrecognized
    cases heq
    rcases hname with hname | hname
    · rw [hname]
      exact nameable_defaultName
    · rw [hname]
      cases hgiven : creationName? text.toList with
      | none => exact nameable_defaultName
      | some n => exact nameable_of_nameOf (nameOf_of_creationName? hgiven) hquiet
  | _ => cases hn

end Intent

end Floorplan
