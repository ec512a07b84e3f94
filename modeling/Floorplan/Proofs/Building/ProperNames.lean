import Floorplan.Proofs.Building.Arises
import Floorplan.Proofs.Building.ByValue
import Floorplan.Proofs.Text.Blank
import Floorplan.Proofs.Text.Decimal

set_option autoImplicit false

/-! # Proper names

A name is proper if it is not empty and has no white space around it. What is generated has a proper
name, a word with a number, and a name that is typed is stripped of the white space around it. So
editing keeps names proper, except that a component may be given a name that was nothing but white
space, of which nothing is left (`Edit.names_arise`, `Building.empty_mem_renameComponent`). A floor that
is given such a name loses its name instead. -/

namespace Floorplan

/-- The name is not empty and has no white space around it. -/
structure ProperName (n : String) : Prop where
  ne_nil : n.toList ≠ []
  trimmed : Text.Trimmed n.toList

instance (n : String) : Decidable (ProperName n) :=
  decidable_of_iff (n.toList ≠ [] ∧ (∀ c ∈ n.toList.head?, Text.isBlank c = false) ∧
      ∀ c ∈ n.toList.getLast?, Text.isBlank c = false)
    ⟨fun h => ⟨h.1, h.2.1, h.2.2⟩, fun h => ⟨h.ne_nil, h.trimmed.head, h.trimmed.last⟩⟩

theorem not_properName_empty : ¬ ProperName "" := fun h => h.ne_nil rfl

/-- A name that is not blank is proper without the white space around it. -/
theorem properName_trim {name : String} (h : Text.allBlank name = false) :
    ProperName (Text.trim name) := by
  have hlist : (Text.trim name).toList = Text.trimChars name.toList := String.toList_ofList
  constructor
  · rw [hlist]
    exact Text.trimChars_ne_nil h
  · rw [hlist]
    exact Text.trimmed_trimChars name.toList

theorem trim_of_allBlank {name : String} (h : Text.allBlank name = true) : Text.trim name = "" := by
  have hnil : Text.trimLeft name.toList = [] := List.dropWhile_eq_nil_iff.2 (List.all_eq_true.1 h)
  rw [Text.trim, Text.trimChars, hnil]
  rfl

/-- A word with a number behind it. -/
theorem properName_append_number {c : Char} (hc : Text.isBlank c = false) (word : List Char) (n : Nat) :
    ProperName (String.ofList (c :: word) ++ toString n) := by
  have hlist : (String.ofList (c :: word) ++ toString n).toList
      = c :: word ++ Nat.toDigits 10 n := by
    rw [String.toList_append, String.toList_ofList]
    exact congrArg _ String.toList_ofList
  have hne : Nat.toDigits 10 n ≠ [] := List.length_pos_iff.1 Nat.length_toDigits_pos
  refine ⟨?_, ?_, ?_⟩ <;> rw [hlist]
  · exact List.cons_ne_nil c _
  · simpa using hc
  · intro d hd
    rw [List.getLast?_append_of_ne_nil _ hne] at hd
    have hdigit := Nat.isDigit_of_mem_toDigits (by decide) (by decide) (List.mem_of_getLast? hd)
    exact (Text.isBlank_of_isDigitChar (Text.isDigitChar_of_isDigit hdigit)).1

theorem Restroom.properName_generate (id : String) (index : Nat) :
    ProperName (Restroom.generate id index).name :=
  properName_append_number (c := 'R') (by decide) "estroom ".toList _

theorem Corridor.properName_generate (id : String) (index lifts : Nat) :
    ProperName (Corridor.generate id index lifts).name :=
  properName_append_number (c := 'C') (by decide) "orridor ".toList _

/-! ## The names in a building -/

/-- The names on a floor, its own included if it was given one. -/
def Floor.allNames (f : Floor) : List String :=
  f.name.toList ++ (f.restrooms.map (·.name) ++ f.corridors.map (·.name))

/-- The names in a building, its own included. -/
def Building.allNames (b : Building) : List String := b.name :: b.floors.flatMap Floor.allNames

/-- The names in all buildings. -/
def Collection.allNames (c : Collection) : List String := c.buildings.flatMap Building.allNames

/-- Every name is proper. -/
def Collection.ProperlyNamed (c : Collection) : Prop := ∀ n ∈ c.allNames, ProperName n

instance (c : Collection) : Decidable c.ProperlyNamed :=
  inferInstanceAs (Decidable (∀ n ∈ c.allNames, ProperName n))

/-- What was proper stays so. -/
theorem Arises.forall_properName {ns ns' : List String} (h : Arises ProperName Eq ns ns')
    (hns : ∀ n ∈ ns, ProperName n) : ∀ n ∈ ns', ProperName n := by
  intro n hn
  rcases h n hn with hproper | ⟨_, hmem, rfl⟩
  · exact hproper
  · exact hns _ hmem

/-- What comes from something that was there or is proper, and then again, comes from there or is. -/
theorem Arises.trans_eq {ns ns' ns'' : List String} (h : Arises ProperName Eq ns ns')
    (h' : Arises ProperName Eq ns' ns'') : Arises ProperName Eq ns ns'' := by
  intro n hn
  rcases h' n hn with hproper | ⟨_, hmem, rfl⟩
  · exact .inl hproper
  · exact h _ hmem

namespace Floor

variable {f g : Floor}

theorem forall_allNames (f : Floor) (p : String → Prop) : (∀ n ∈ f.allNames, p n) ↔
    (∀ n ∈ f.name, p n) ∧ (∀ r ∈ f.restrooms, p r.name) ∧ ∀ c ∈ f.corridors, p c.name := by
  simp only [allNames, List.forall_mem_append, List.forall_mem_map, Option.mem_toList, Option.mem_def]

/-- The names on a floor arise kind by kind. -/
theorem names_arise (hname : ∀ n ∈ g.name, ProperName n ∨ n ∈ f.name)
    (hrestrooms : ∀ r ∈ g.restrooms, ProperName r.name ∨ ∃ r' ∈ f.restrooms, r'.name = r.name)
    (hcorridors : ∀ c ∈ g.corridors, ProperName c.name ∨ ∃ c' ∈ f.corridors, c'.name = c.name) :
    Arises ProperName Eq f.allNames g.allNames := by
  have hthere := (f.forall_allNames (· ∈ f.allNames)).1 fun _ hn => hn
  refine (g.forall_allNames _).2 ⟨fun n hn => ?_, fun r hr => ?_, fun c hc => ?_⟩
  · exact (hname n hn).imp_right fun h => ⟨n, hthere.1 n h, rfl⟩
  · exact (hrestrooms r hr).imp_right fun ⟨r', hr', h⟩ => ⟨_, hthere.2.1 r' hr', h⟩
  · exact (hcorridors c hc).imp_right fun ⟨c', hc', h⟩ => ⟨_, hthere.2.2 c' hc', h⟩

theorem names_arise_restrooms {restrooms : List Restroom}
    (h : ∀ r ∈ restrooms, ProperName r.name ∨ ∃ r' ∈ f.restrooms, r'.name = r.name) :
    Arises ProperName Eq f.allNames { f with restrooms }.allNames :=
  names_arise (fun _ => Or.inr) h fun c hc => Or.inr ⟨c, hc, rfl⟩

theorem names_arise_corridors {corridors : List Corridor}
    (h : ∀ c ∈ corridors, ProperName c.name ∨ ∃ c' ∈ f.corridors, c'.name = c.name) :
    Arises ProperName Eq f.allNames { f with corridors }.allNames :=
  names_arise (fun _ => Or.inr) (fun r hr => Or.inr ⟨r, hr, rfl⟩) h

theorem names_arise_named (f : Floor) {name : String} (hname : ProperName name) :
    Arises ProperName Eq f.allNames { f with name := some name }.allNames := by
  refine names_arise (fun n hn => Or.inl ?_) (fun r hr => Or.inr ⟨r, hr, rfl⟩)
    fun c hc => Or.inr ⟨c, hc, rfl⟩
  cases hn
  exact hname

theorem properName_generate (id : String) (number restrooms corridors lifts : Nat) :
    ∀ n ∈ (generate id number restrooms corridors lifts).allNames, ProperName n := by
  refine (forall_allNames _ _).2 ⟨fun _ hn => ?_, ?_, ?_⟩
  · cases hn
  · exact List.forall_mem_map.2 fun j _ => Restroom.properName_generate _ j
  · exact List.forall_mem_map.2 fun j _ => Corridor.properName_generate _ j lifts

theorem names_arise_appendComponents (f : Floor) (kind : ComponentKind) (count : Nat) (clock : Clock)
    (s : Stamps) :
    Arises ProperName Eq f.allNames (f.appendComponents kind count clock s).1.allNames := by
  cases kind with
  | restroom =>
    refine names_arise_restrooms (List.forall_mem_append.2 ⟨fun r hr => Or.inr ⟨r, hr, rfl⟩, ?_⟩)
    exact List.forall_mem_map.2 fun _ _ => Or.inl (Restroom.properName_generate _ _)
  | corridor =>
    refine names_arise_corridors (List.forall_mem_append.2 ⟨fun c hc => Or.inr ⟨c, hc, rfl⟩, ?_⟩)
    exact List.forall_mem_map.2 fun _ _ => Or.inl (Corridor.properName_generate _ _ _)

theorem names_arise_mapRestroom (f : Floor) (id : String) {edit : Restroom → Restroom}
    (h : ∀ r, (edit r).name = r.name ∨ ProperName (edit r).name) :
    Arises ProperName Eq f.allNames (f.mapRestroom id edit).allNames := by
  refine names_arise_restrooms (List.forall_mem_map.2 fun r hr => ?_)
  split
  · exact (h r).symm.imp_right fun hname => ⟨r, hr, hname.symm⟩
  · exact Or.inr ⟨r, hr, rfl⟩

theorem names_arise_mapCorridor (f : Floor) (id : String) {edit : Corridor → Corridor}
    (h : ∀ c, (edit c).name = c.name ∨ ProperName (edit c).name) :
    Arises ProperName Eq f.allNames (f.mapCorridor id edit).allNames := by
  refine names_arise_corridors (List.forall_mem_map.2 fun c hc => ?_)
  split
  · exact (h c).symm.imp_right fun hname => ⟨c, hc, hname.symm⟩
  · exact Or.inr ⟨c, hc, rfl⟩

theorem names_arise_removeComponent (f : Floor) (kind : ComponentKind) (id : String) :
    Arises ProperName Eq f.allNames (f.removeComponent kind id).allNames := by
  cases kind with
  | restroom =>
    exact names_arise_restrooms fun r hr => Or.inr ⟨r, List.mem_of_mem_filter hr, rfl⟩
  | corridor =>
    exact names_arise_corridors fun c hc => Or.inr ⟨c, List.mem_of_mem_filter hc, rfl⟩

end Floor

namespace Building

variable {b b' : Building}

/-- The names in a building arise floor by floor. -/
theorem names_arise (hname : b'.name = b.name ∨ ProperName b'.name)
    (hfloors : Arises ProperName Eq (b.floors.flatMap Floor.allNames)
      (b'.floors.flatMap Floor.allNames)) :
    Arises ProperName Eq b.allNames b'.allNames := by
  refine List.forall_mem_cons.2 ⟨?_, fun n hn => ?_⟩
  · exact hname.symm.imp_right fun h => ⟨b.name, List.mem_cons_self, h.symm⟩
  · exact (hfloors n hn).imp_right fun ⟨m, hm, hmn⟩ => ⟨m, List.mem_cons_of_mem _ hm, hmn⟩

theorem names_arise_mapFloor (b : Building) (id : String) {edit : Floor → Floor}
    (h : ∀ f, Arises ProperName Eq f.allNames (edit f).allNames) :
    Arises ProperName Eq b.allNames (b.mapFloor id edit).allNames :=
  names_arise (.inl rfl) (.map_floors (fun _ => rfl) fun f hf _ => ⟨f, hf, h f⟩)

theorem names_arise_appendFloors (b : Building) (count : Nat) (clock : Clock) (s : Stamps) :
    Arises ProperName Eq b.allNames (b.appendFloors count clock s).1.allNames :=
  names_arise (.inl rfl) (.appendFloors (fun _ => rfl)
    (fun _ _ => Floor.properName_generate _ _ _ _ _) b count clock s)

theorem names_arise_renumber (b : Building) (total : Nat) {kept : List Floor}
    (hkept : ∀ f ∈ kept, f ∈ b.floors) :
    Arises ProperName Eq b.allNames
      (allNames { b with totalFloors := total, floors := renumber kept }) :=
  names_arise (.inl rfl) (.renumber (fun _ => rfl) (fun _ _ => rfl) hkept)

theorem properName_generate (id : String) {name : String} (hname : ProperName name)
    (floors restrooms corridors lifts : Nat) :
    ∀ n ∈ (generate id name floors restrooms corridors lifts).allNames, ProperName n := by
  refine List.forall_mem_cons.2 ⟨hname, fun n hn => ?_⟩
  obtain ⟨f, hf, hn⟩ := List.mem_flatMap.1 hn
  obtain ⟨i, -, rfl⟩ := List.mem_map.1 hf
  exact Floor.properName_generate _ _ _ _ _ n hn

end Building

/-! ## Edits -/

/-- Is a component to be given a name that is nothing but white space? -/
def Edit.blanks : Edit → Bool
  | renameComponent _ _ _ name => Text.allBlank name
  | _ => false

/-- **Where the names come from after an edit**, if it does not give a component a blank name. -/
theorem Edit.names_arise {e : Edit} (h : e.blanks = false) (b : Building) (clock : Clock)
    (s : Stamps) : Arises ProperName Eq b.allNames (e.applyTo b clock s).1.allNames := by
  cases e with
  | addFloor => exact b.names_arise_appendFloors 1 clock s
  | appendFloors count => exact b.names_arise_appendFloors count clock s
  | removeFloor floor =>
    simp only [applyTo, Building.removeFloor]
    split
    · exact .refl (fun _ => rfl) _
    · exact b.names_arise_renumber _ fun _ => List.mem_of_mem_filter
  | addComponent kind floor =>
    simp only [applyTo, Building.addComponent]
    split
    · exact .refl (fun _ => rfl) _
    · rename_i f hf
      refine Building.names_arise (.inl rfl) (.map_floors (fun _ => rfl) fun _ _ _ => ?_)
      exact ⟨f, List.mem_of_find?_eq_some hf, f.names_arise_appendComponents kind 1 clock s⟩
  | removeComponent kind floor component =>
    exact b.names_arise_mapFloor floor fun f => f.names_arise_removeComponent kind component
  | addLift floor corridor =>
    exact b.names_arise_mapFloor floor fun f => f.names_arise_mapCorridor corridor fun _ => .inl rfl
  | removeLift floor corridor lift =>
    exact b.names_arise_mapFloor floor fun f => f.names_arise_mapCorridor corridor fun _ => .inl rfl
  | renameFloor floor name =>
    refine b.names_arise_mapFloor floor fun f => Floor.names_arise (fun n hn => Or.inl ?_)
      (fun r hr => Or.inr ⟨r, hr, rfl⟩) fun c hc => Or.inr ⟨c, hc, rfl⟩
    -- A floor is given what is left of the name, if anything is.
    obtain ⟨hleft, heq⟩ := Option.ite_none_left_eq_some.1 hn
    cases heq
    refine properName_trim (Bool.eq_false_iff.2 fun hblank => hleft ?_)
    rw [trim_of_allBlank hblank]
    rfl
  | renameComponent kind floor component name =>
    have hproper := properName_trim h
    refine b.names_arise_mapFloor floor fun f => ?_
    cases kind with
    | restroom => exact f.names_arise_mapRestroom component fun _ => .inr hproper
    | corridor => exact f.names_arise_mapCorridor component fun _ => .inr hproper
  | renumber => exact b.names_arise_renumber _ fun _ => id
  | synced => exact Building.names_arise (.inl rfl) (.refl (fun _ => rfl) _)

/-! ## Names that are nothing but white space -/

/-- The floor has a component of a kind with an id. -/
def Floor.HasComponent (f : Floor) (kind : ComponentKind) (id : String) : Prop :=
  match kind with
  | .restroom => ∃ r ∈ f.restrooms, r.id = id
  | .corridor => ∃ c ∈ f.corridors, c.id = id

theorem Building.mem_allNames_mapFloor {b : Building} {f : Floor} {edit : Floor → Floor} {n : String}
    (hf : f ∈ b.floors) (hn : n ∈ (edit f).allNames) : n ∈ (b.mapFloor f.id edit).allNames := by
  refine List.mem_cons_of_mem _ (List.mem_flatMap.2 ⟨edit f, ?_, hn⟩)
  exact List.mem_map.2 ⟨f, hf, if_pos rfl⟩

/-- A component that is given a blank name has the empty name then. -/
theorem Building.empty_mem_renameComponent {b : Building} {f : Floor} {kind : ComponentKind}
    {component name : String} (hblank : Text.allBlank name = true) (hf : f ∈ b.floors)
    (hcomponent : f.HasComponent kind component) :
    "" ∈ (b.renameComponent kind f.id component name).allNames := by
  refine mem_allNames_mapFloor hf ?_
  cases kind with
  | restroom =>
    obtain ⟨r, hr, rfl⟩ := hcomponent
    refine List.mem_append_right _ (List.mem_append_left _ ?_)
    refine List.mem_map.2 ⟨_, List.mem_map_of_mem hr, ?_⟩
    rw [if_pos rfl]
    exact trim_of_allBlank hblank
  | corridor =>
    obtain ⟨c, hc, rfl⟩ := hcomponent
    refine List.mem_append_right _ (List.mem_append_right _ ?_)
    refine List.mem_map.2 ⟨_, List.mem_map_of_mem hc, ?_⟩
    rw [if_pos rfl]
    exact trim_of_allBlank hblank

/-! ## Without coordinates -/

theorem Floor.allNames_unplaced (f : Floor) : f.unplaced.allNames = f.allNames := by
  simp only [allNames, unplaced, List.map_map]
  rfl

theorem Building.allNames_unplaced (b : Building) : b.unplaced.allNames = b.allNames := by
  simp only [allNames, unplaced, List.flatMap_map, Floor.allNames_unplaced]

end Floorplan
