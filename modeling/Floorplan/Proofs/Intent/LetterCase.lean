import Floorplan.Proofs.Pattern.LetterCase

set_option autoImplicit false

/-! # The case of letters does not matter

Some phrases are looked for in a text as it was typed and ignore case, others are looked for in its lower
case, and some words are looked for in the lower case before a phrase is tried. In the end it makes no
difference to the family that recognises a text whether its ASCII letters are capitals or not, and to the
intent only in the names, which keep the case in which they were typed (`Intent.parse?_sameButCase`). -/

namespace Floorplan

open Text (toLower_toLower toLower_ofList toList_toLower lowerChars_map_toLower)

/-- What is found first is found in the same place if everything that is tried gives the same but for
    `g`. -/
theorem findSome?_eq_map {α β γ : Type} {xs : List α} {f : α → Option β} {f' : α → Option γ} {g : β → γ}
    (h : ∀ x ∈ xs, f' x = (f x).map g) : xs.findSome? f' = (xs.findSome? f).map g := by
  induction xs with
  | nil => rfl
  | cons x xs ih =>
    obtain ⟨hx, hxs⟩ := List.forall_mem_cons.1 h
    rw [List.findSome?_cons, List.findSome?_cons, hx, ih hxs]
    cases f x <;> rfl

namespace Intent

/-- The intent with another name in the place of every name. -/
def mapNames (f : String → String) : Intent → Intent
  | switchBuilding name => switchBuilding (f name)
  | bulkRename target names => bulkRename target (names.map f)
  | renameComponent kind floor index name => renameComponent kind floor index (f name)
  | renameFloor floor name => renameFloor floor (f name)
  | renameBuilding name => renameBuilding (f name)
  | createBuilding spec => createBuilding { spec with name := spec.name.map f }
  | showCommands => showCommands
  | listBuildings => listBuildings
  | addFloors count => addFloors count
  | addComponents kind count floor => addComponents kind count floor
  | addMultiple counts => addMultiple counts
  | removeFloors count => removeFloors count

/-- The intent with the ASCII letters of its names in lower case. -/
def lowered (i : Intent) : Intent := i.mapNames String.toLower

/-- The intents ask for the same, with the same kinds and numbers and as many names, and the names are
    the same but for the case of ASCII letters. -/
def SameButCase (i j : Intent) : Prop := i.lowered = j.lowered

theorem lowered_lowered (i : Intent) : i.lowered.lowered = i.lowered := by
  have hname : ∀ n : String, n.toLower.toLower = n.toLower := by
    intro n
    rw [← String.toList_inj, toList_toLower, toList_toLower, List.map_map]
    exact List.map_congr_left fun c _ => toLower_toLower c
  cases i <;> simp [lowered, mapNames, Function.comp_def, hname]

/-! ## Names and numbers in a text -/

theorem firstName?_map_toLower {ps : List Pattern} (hps : ∀ p ∈ ps, p.isCaseless = true)
    (s : List Char) :
    firstName? ps (s.map Char.toLower) = (firstName? ps s).map String.toLower := by
  refine findSome?_eq_map fun p hp => ?_
  simp only [Pattern.find?_map_toLower (hps p hp), Option.bind_map, Function.comp_def,
    Match.name?_lowered, Option.map_bind]

theorem bracketNames_map_toLower (s : List Char) :
    bracketNames (s.map Char.toLower) = (bracketNames s).map String.toLower := by
  have hquotes : ∀ c ∈ listQuotes, c.isAlpha = false := by decide
  rw [bracketNames, bracketNames, Text.splitAt_map_toLower (by decide), List.map_map, List.map_map]
  refine List.map_congr_left fun piece _ => ?_
  simp only [Function.comp_apply, toLower_ofList, Text.without_map_toLower hquotes,
    Text.trimChars_map_toLower]

theorem quantity?_map_toLower {p : Pattern} (hp : p.isCaseless = true) (s : List Char) :
    quantity? p (s.map Char.toLower) = quantity? p s := by
  simp only [quantity?, Pattern.find?_map_toLower hp, Option.bind_map, Function.comp_def,
    Match.number?_lowered]

theorem creationName?_map_toLower (s : List Char) :
    creationName? (s.map Char.toLower) = (creationName? s).map String.toLower := by
  have hps : ∀ p ∈ Phrase.createName, p.isCaseless = true := by decide
  have hfound : Phrase.createName.findSome? (·.find? (s.map Char.toLower))
      = (Phrase.createName.findSome? (·.find? s)).map Match.lowered :=
    findSome?_eq_map fun p hp => Pattern.find?_map_toLower (hps p hp) s
  simp only [creationName?, hfound, Option.bind_map, Function.comp_def, Match.name?_lowered,
    Option.map_bind]

/-! ## The families -/

theorem switchBuilding?_map_toLower (s : List Char) :
    switchBuilding? (s.map Char.toLower) = (switchBuilding? s).map lowered := by
  rw [switchBuilding?, switchBuilding?, firstName?_map_toLower (by decide), Option.map_map,
    Option.map_map]
  rfl

theorem renameBuilding?_map_toLower (s : List Char) :
    renameBuilding? (s.map Char.toLower) = (renameBuilding? s).map lowered := by
  rw [renameBuilding?, renameBuilding?, firstName?_map_toLower (by decide), Option.map_map,
    Option.map_map]
  rfl

theorem bulkComponents?_lowered (kind : ComponentKind) (m : Match) :
    bulkComponents? kind m.lowered = (bulkComponents? kind m).map lowered := by
  simp only [bulkComponents?, Match.number?_lowered, Match.group?_lowered, Option.bind_eq_bind,
    Option.pure_def, Option.bind_map, Option.map_bind, Function.comp_def, bracketNames_map_toLower,
    Option.map_some, lowered, mapNames]

theorem bulkRename?_map_toLower (s : List Char) :
    bulkRename? (s.map Char.toLower) = (bulkRename? s).map lowered := by
  have hfloors : Phrase.bulkFloors.isCaseless = true := by decide
  have hcomponents : ∀ kind, (Phrase.bulkComponents kind).isCaseless = true := by
    intro kind
    cases kind <;> decide
  simp only [bulkRename?, lowerChars_map_toLower, Pattern.find?_map_toLower hfloors,
    Pattern.find?_map_toLower (hcomponents _)]
  split
  · cases Phrase.bulkFloors.find? s with
    | some m =>
      simp only [Option.map_some, Match.group?_lowered, Option.map_map, Function.comp_def,
        bracketNames_map_toLower, lowered, mapNames]
    | none =>
      cases (Phrase.bulkComponents .restroom).find? s with
      | some m => exact bulkComponents?_lowered .restroom m
      | none =>
        simp only [Option.map_none, Option.bind_map, Option.map_bind, Function.comp_def,
          bulkComponents?_lowered]
  · rfl

theorem renameComponent?_map_toLower (kind : ComponentKind) (s : List Char) :
    renameComponent? kind (s.map Char.toLower) = (renameComponent? kind s).map lowered := by
  have hfloorFirst : (Phrase.renameFloorFirst kind).isCaseless = true := by
    cases kind <;> decide
  have hnameFirst : (Phrase.renameNameFirst kind).isCaseless = true := by
    cases kind <;> decide
  simp only [renameComponent?, Pattern.find?_map_toLower hfloorFirst,
    Pattern.find?_map_toLower hnameFirst]
  cases (Phrase.renameFloorFirst kind).find? s with
  | some m =>
    simp only [Option.map_some, Match.number?_lowered, Match.name?_lowered, Option.bind_eq_bind,
      Option.pure_def, Option.bind_map, Option.map_bind, Function.comp_def, lowered, mapNames]
  | none =>
    simp only [Option.map_none, Match.number?_lowered, Match.name?_lowered, Option.bind_eq_bind,
      Option.pure_def, Option.bind_map, Option.map_bind, Function.comp_def, Option.map_some, lowered,
      mapNames]

theorem renameFloor?_map_toLower (s : List Char) :
    renameFloor? (s.map Char.toLower) = (renameFloor? s).map lowered := by
  have hps : ∀ p ∈ Phrase.renameFloor, p.isCaseless = true := by decide
  refine findSome?_eq_map fun p hp => ?_
  simp only [Pattern.find?_map_toLower (hps p hp), Match.number?_lowered, Match.name?_lowered,
    Option.bind_eq_bind, Option.pure_def, Option.bind_map, Option.map_bind, Function.comp_def,
    Option.map_some, lowered, mapNames]

/-- The name that is given to a building made by default is not taken from the text, so only the intents
    without capitals are the same here. -/
theorem createBuilding?_map_toLower (s : List Char) :
    (createBuilding? (s.map Char.toLower)).map lowered = (createBuilding? s).map lowered := by
  have hfloors : Phrase.floorQuantity.isCaseless = true := by decide
  have hrestrooms : Phrase.restroomQuantity.isCaseless = true := by decide
  have hcorridors : Phrase.corridorQuantity.isCaseless = true := by decide
  have hlifts : Phrase.liftQuantity.isCaseless = true := by decide
  have hspec : ∀ name floors restrooms corridors lifts,
      lowered (createBuilding ⟨name.map String.toLower, floors, restrooms, corridors, lifts⟩)
        = lowered (createBuilding ⟨name, floors, restrooms, corridors, lifts⟩) := by
    intro name floors restrooms corridors lifts
    exact lowered_lowered (createBuilding ⟨name, floors, restrooms, corridors, lifts⟩)
  have hnamed : ∀ name : Option String,
      ((name.map String.toLower).map fun n => createBuilding ⟨some n, 3, 2, 2, 2⟩).map lowered
        = (name.map fun n => createBuilding ⟨some n, 3, 2, 2, 2⟩).map lowered := by
    intro name
    cases name with
    | none => rfl
    | some n => exact congrArg some (hspec (some n) 3 2 2 2)
  simp only [createBuilding?, lowerChars_map_toLower, quantity?_map_toLower hfloors,
    quantity?_map_toLower hrestrooms, quantity?_map_toLower hcorridors, quantity?_map_toLower hlifts,
    creationName?_map_toLower]
  split
  · rfl
  · split
    · split
      · split
        · exact congrArg some (hspec ..)
        · exact hnamed _
      · exact hnamed _
    · rfl

/-- **A family recognises a text whatever the case of its letters.** -/
theorem recognize?_map_toLower (f : Family) (s : List Char) :
    (f.recognize? (s.map Char.toLower)).map lowered = (f.recognize? s).map lowered := by
  have hnames : ∀ {r r' : Option Intent}, r' = r.map lowered → r'.map lowered = r.map lowered := by
    rintro r r' rfl
    rw [Option.map_map]
    exact Option.map_congr fun i _ => lowered_lowered i
  cases f with
  | showCommands => simp only [Family.recognize?, showCommands?, lowerChars_map_toLower]
  | listBuildings => simp only [Family.recognize?, listBuildings?, lowerChars_map_toLower]
  | switchBuilding => exact hnames (switchBuilding?_map_toLower s)
  | bulkRename => exact hnames (bulkRename?_map_toLower s)
  | restroomRename => exact hnames (renameComponent?_map_toLower .restroom s)
  | corridorRename => exact hnames (renameComponent?_map_toLower .corridor s)
  | floorRename => exact hnames (renameFloor?_map_toLower s)
  | buildingRename => exact hnames (renameBuilding?_map_toLower s)
  | createBuilding => exact createBuilding?_map_toLower s
  | editStructure => simp only [Family.recognize?, editStructure?, lowerChars_map_toLower]

/-! ## Texts -/

/-- What a text is recognised as can be told from the text without capitals, but for capitals. -/
theorem parse?_toLower (text : String) (hasActive : Bool) :
    (parse? text.toLower hasActive).map (Prod.map id lowered)
      = (parse? text hasActive).map (Prod.map id lowered) := by
  have hmap : ∀ t, (parse? t hasActive).map (Prod.map id lowered)
      = (Family.all.filter fun f => hasActive || !f.needsActive).findSome? fun f =>
          ((f.recognize? t.toList).map lowered).map (f, ·) := by
    intro t
    refine (findSome?_eq_map fun f _ => ?_).symm
    rw [Option.map_map, Option.map_map]
    rfl
  simp only [hmap, toList_toLower, recognize?_map_toLower]

/-- **The case of letters does not matter.** Two texts that are the same but for the case of ASCII letters
    are recognised by the same family, or neither is by any; and what they ask for is the same but for the
    case of ASCII letters in the names. -/
theorem parse?_sameButCase {s t : String} (h : s.toLower = t.toLower) (hasActive : Bool) :
    Option.Rel (fun x y => x.1 = y.1 ∧ x.2.SameButCase y.2) (parse? s hasActive)
      (parse? t hasActive) := by
  have hsame : (parse? s hasActive).map (Prod.map id lowered)
      = (parse? t hasActive).map (Prod.map id lowered) := by
    rw [← parse?_toLower s, ← parse?_toLower t, h]
  cases hs : parse? s hasActive with
  | none =>
    rw [hs, Option.map_none, eq_comm, Option.map_eq_none_iff] at hsame
    rw [hsame]
    exact .none
  | some x =>
    rw [hs, Option.map_some, eq_comm, Option.map_eq_some_iff] at hsame
    obtain ⟨y, hy, heq⟩ := hsame
    rw [hy]
    obtain ⟨hfamily, hintent⟩ := Prod.mk.inj heq
    exact .some ⟨hfamily.symm, hintent.symm⟩

set_option maxRecDepth 100000 in
/-- Names are given in a list, once as usual and once with the capitals the other way round. -/
theorem shouted_sameButCase :
    "Rename all restrooms in floor 2 to [Men, 'Women']".toLower
        = "rENAME ALL RESTROOMS IN FLOOR 2 TO [mEN, 'wOMEN']".toLower ∧
      parse? "Rename all restrooms in floor 2 to [Men, 'Women']" true
        = some (.bulkRename, .bulkRename (.components .restroom 2) ["Men", "Women"]) ∧
      parse? "rENAME ALL RESTROOMS IN FLOOR 2 TO [mEN, 'wOMEN']" true
        = some (.bulkRename, .bulkRename (.components .restroom 2) ["mEN", "wOMEN"]) ∧
      Option.Rel (fun x y => x.1 = y.1 ∧ x.2.SameButCase y.2)
        (parse? "Rename all restrooms in floor 2 to [Men, 'Women']" true)
        (parse? "rENAME ALL RESTROOMS IN FLOOR 2 TO [mEN, 'wOMEN']" true) := by
  have hsame : "Rename all restrooms in floor 2 to [Men, 'Women']".toLower
      = "rENAME ALL RESTROOMS IN FLOOR 2 TO [mEN, 'wOMEN']".toLower := by
    rw [← String.toList_inj, toList_toLower, toList_toLower]
    decide +kernel
  exact ⟨hsame, by decide +kernel, by decide +kernel, parse?_sameButCase hsame true⟩

end Intent

end Floorplan
