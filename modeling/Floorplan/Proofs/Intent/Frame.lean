import Floorplan.Proofs.Intent.Effect
import Floorplan.Proofs.Intent.Rename

set_option autoImplicit false

/-! # What intents leave alone

Only the removal of floors takes anything away. After any other intent everything that was there is at
its place, with what was attached to it: an intent gives names, and puts things behind the others. All
buildings but the active one are the same as before.

A floor that takes the place of every floor of its number, and a building that takes the place of every
building of its id, would overwrite others if numbers or ids occurred twice; therefore the collection is
taken to have distinct ids of buildings and distinct floor numbers in each. -/

namespace Floorplan

/-! ## Lists that are kept -/

/-- Each item of the old list has its place in the new one, where it may have changed as `r` says. -/
def Kept {α : Type} (r : α → α → Prop) (old new : List α) : Prop :=
  ∀ (i : Nat) (a : α), old[i]? = some a → ∃ b, new[i]? = some b ∧ r a b

namespace Kept

variable {α : Type} {r : α → α → Prop} {old new : List α}

theorem of_forall₂ (h : List.Forall₂ r old new) : Kept r old new := by
  intro i a ha
  obtain ⟨hi, rfl⟩ := List.getElem?_eq_some_iff.1 ha
  have hinew : i < new.length := by
    rw [← h.length_eq]
    exact hi
  exact ⟨new[i], List.getElem?_eq_getElem hinew, h.get hi hinew⟩

theorem refl (hr : ∀ a, r a a) (old : List α) : Kept r old old := fun _ a ha => ⟨a, ha, hr a⟩

theorem map {edit : α → α} (hr : ∀ a ∈ old, r a (edit a)) : Kept r old (old.map edit) := by
  intro i a ha
  refine ⟨edit a, ?_, hr a (List.mem_of_getElem? ha)⟩
  rw [List.getElem?_map, ha, Option.map_some]

theorem append (h : Kept r old new) (added : List α) : Kept r old (new ++ added) := by
  intro i a ha
  obtain ⟨b, hb, hab⟩ := h i a ha
  obtain ⟨hi, -⟩ := List.getElem?_eq_some_iff.1 hb
  exact ⟨b, by rw [List.getElem?_append_left hi, hb], hab⟩

theorem modify (hr : ∀ a, r a a) {edit : α → α} (hedit : ∀ a, r a (edit a)) (slot : Nat) :
    Kept r old (old.modify slot edit) := by
  intro i a ha
  rw [List.getElem?_modify, ha]
  split
  · exact ⟨edit a, rfl, hedit a⟩
  · exact ⟨a, rfl, hr a⟩

theorem trans {newer : List α} (h : Kept r old new) (h' : Kept r new newer)
    (hr : ∀ {a b c}, r a b → r b c → r a c) : Kept r old newer := by
  intro i a ha
  obtain ⟨b, hb, hab⟩ := h i a ha
  obtain ⟨c, hc, hbc⟩ := h' i b hb
  exact ⟨c, hc, hr hab hbc⟩

end Kept

/-! ## Parts of a building that are kept -/

/-- A restroom may get another name. -/
structure Restroom.Stays (old new : Restroom) : Prop where
  id : new.id = old.id
  position : new.position = old.position
  map : new.map = old.map
  fixture : new.fixture = old.fixture

/-- A corridor may get another name. -/
structure Corridor.Stays (old new : Corridor) : Prop where
  id : new.id = old.id
  position : new.position = old.position
  map : new.map = old.map
  lifts : new.lifts = old.lifts

/-- A floor may get another name and further components. -/
structure Floor.Stays (old new : Floor) : Prop where
  id : new.id = old.id
  number : new.number = old.number
  restrooms : Kept Restroom.Stays old.restrooms new.restrooms
  corridors : Kept Corridor.Stays old.corridors new.corridors

/-- A building may get another name and further floors. -/
structure Building.Stays (old new : Building) : Prop where
  id : new.id = old.id
  floors : Kept Floor.Stays old.floors new.floors

theorem Restroom.Stays.refl (r : Restroom) : r.Stays r := ⟨rfl, rfl, rfl, rfl⟩

theorem Corridor.Stays.refl (c : Corridor) : c.Stays c := ⟨rfl, rfl, rfl, rfl⟩

theorem Floor.Stays.refl (f : Floor) : f.Stays f := ⟨rfl, rfl, .refl .refl _, .refl .refl _⟩

theorem Building.Stays.refl (b : Building) : b.Stays b := ⟨rfl, .refl .refl _⟩

theorem Restroom.Stays.trans {r₁ r₂ r₃ : Restroom} (h : r₁.Stays r₂) (h' : r₂.Stays r₃) :
    r₁.Stays r₃ :=
  ⟨h'.id.trans h.id, h'.position.trans h.position, h'.map.trans h.map,
    h'.fixture.trans h.fixture⟩

theorem Corridor.Stays.trans {c₁ c₂ c₃ : Corridor} (h : c₁.Stays c₂) (h' : c₂.Stays c₃) :
    c₁.Stays c₃ :=
  ⟨h'.id.trans h.id, h'.position.trans h.position, h'.map.trans h.map, h'.lifts.trans h.lifts⟩

theorem Floor.Stays.trans {f₁ f₂ f₃ : Floor} (h : f₁.Stays f₂) (h' : f₂.Stays f₃) : f₁.Stays f₃ :=
  ⟨h'.id.trans h.id, h'.number.trans h.number,
    Kept.trans h.restrooms h'.restrooms .trans, Kept.trans h.corridors h'.corridors .trans⟩

theorem Building.Stays.trans {b₁ b₂ b₃ : Building} (h : b₁.Stays b₂) (h' : b₂.Stays b₃) :
    b₁.Stays b₃ :=
  ⟨h'.id.trans h.id, Kept.trans h.floors h'.floors .trans⟩

/-! ## Edits of floors -/

namespace Floor.Stays

theorem appendComponents (f : Floor) (kind : ComponentKind) (count : Nat) (clock : Clock)
    (s : Stamps) : f.Stays (f.appendComponents kind count clock s).1 := by
  cases kind with
  | restroom => exact ⟨rfl, rfl, (Kept.refl .refl _).append _, .refl .refl _⟩
  | corridor => exact ⟨rfl, rfl, .refl .refl _, (Kept.refl .refl _).append _⟩

theorem renamedOn (kind : ComponentKind) (f : Floor) (names : List String) :
    f.Stays (Intent.renamedOn kind f names) := by
  cases kind with
  | restroom =>
    refine ⟨rfl, rfl, .of_forall₂ (Intent.forall₂_renamePositional ?_ ?_ names), .refl .refl _⟩
    · exact fun r _ => .refl r
    · exact fun r _ n => ⟨rfl, rfl, rfl, rfl⟩
  | corridor =>
    refine ⟨rfl, rfl, .refl .refl _, .of_forall₂ (Intent.forall₂_renamePositional ?_ ?_ names)⟩
    · exact fun c _ => .refl c
    · exact fun c _ n => ⟨rfl, rfl, rfl, rfl⟩

theorem renamedAt (kind : ComponentKind) (slot : Nat) (name : String) (f : Floor) :
    f.Stays (Intent.renamedAt kind slot name f) := by
  cases kind with
  | restroom => exact ⟨rfl, rfl, .modify .refl (fun _ => ⟨rfl, rfl, rfl, rfl⟩) slot, .refl .refl _⟩
  | corridor => exact ⟨rfl, rfl, .refl .refl _, .modify .refl (fun _ => ⟨rfl, rfl, rfl, rfl⟩) slot⟩

theorem appendToEach (kind : ComponentKind) (count : Nat) (clock : Clock) (floors : List Floor)
    (s : Stamps) :
    List.Forall₂ Floor.Stays floors (Intent.appendToEach kind count clock floors s).1 := by
  induction floors generalizing s with
  | nil => exact .nil
  | cons f floors ih => exact .cons (appendComponents f kind count clock s) (ih _)

end Floor.Stays

/-! ## Edits of buildings -/

namespace Building.Stays

variable {clock : Clock} {s s' : Stamps} {b b' : Building}

theorem mapNumbered {number : Nat} {edit : Floor → Floor}
    (hedit : ∀ f ∈ b.floors, f.number = number → f.Stays (edit f)) :
    b.Stays (b.mapNumbered number edit) := by
  refine ⟨rfl, .map fun f hf => ?_⟩
  split
  · rename_i hnumber
    exact hedit f hf hnumber
  · exact .refl f

/-- A floor that is made from the one that is found, and put in its place. -/
theorem replaceNumbered {number : Nat} {f g : Floor} (hnodup : b.floorNumbers.Nodup)
    (hf : b.floorByNumber? number = some f) (hg : f.Stays g) :
    b.Stays (b.mapNumbered number fun _ => g) := by
  refine mapNumbered fun f' hf' hnumber => ?_
  rw [Building.eq_of_floorByNumber? hnodup hf hf' hnumber]
  exact hg

theorem growFloors {count : Option Nat} {said : List String}
    (h : Intent.growFloors b count clock s = ((b', said), s')) : b.Stays b' := by
  unfold Intent.growFloors at h
  split at h
  · cases h
    exact .refl b
  · cases h
    exact ⟨rfl, (Kept.refl .refl _).append _⟩

theorem growComponents {kind : ComponentKind} {count : Option Nat} {said : List String}
    (h : Intent.growComponents b kind count clock s = ((b', said), s')) : b.Stays b' := by
  unfold Intent.growComponents at h
  split at h
  · cases h
    exact .refl b
  · cases h
    exact ⟨rfl, .of_forall₂ (Floor.Stays.appendToEach ..)⟩

/-- Whatever an intent other than a removal turns a building into. -/
theorem of_turns {intent : Intent} {reply : Reply} (hnodup : b.floorNumbers.Nodup)
    (hintent : ∀ count, intent ≠ .removeFloors count)
    (h : intent.Turns clock b s b' reply s') : b.Stays b' := by
  cases h with
  | nameFloors names floors hfloors =>
    rw [hfloors]
    refine ⟨rfl, .of_forall₂ (Intent.forall₂_renamePositional ?_ ?_ names)⟩
    · exact fun f _ => .refl f
    · exact fun f _ n => ⟨rfl, rfl, .refl .refl _, .refl .refl _⟩
  | nameComponents kind floor names hf => exact replaceNumbered hnodup hf (.renamedOn kind _ names)
  | nameComponent kind floor index name =>
    exact mapNumbered fun f _ _ => .renamedAt kind (index - 1) name f
  | nameFloor floor name =>
    exact mapNumbered fun f _ _ => ⟨rfl, rfl, .refl .refl _, .refl .refl _⟩
  | nameBuilding name => exact ⟨rfl, .refl .refl _⟩
  | addFloors count => exact ⟨rfl, (Kept.refl .refl _).append _⟩
  | addEverywhere kind count => exact ⟨rfl, .of_forall₂ (Floor.Stays.appendToEach ..)⟩
  | addOnFloor kind count floor hf =>
    exact replaceNumbered hnodup hf (.appendComponents _ kind count clock s)
  | addMultiple counts hfloors hrestrooms hcorridors =>
    exact ((growFloors hfloors).trans (growComponents hrestrooms)).trans
      (growComponents hcorridors)
  | removeFloors count => exact absurd rfl (hintent count)

end Building.Stays

/-! ## Collections -/

/-- What was in the collection is still there. Buildings other than the active one are the same; only
    a creation adds one, and only a creation or a switch makes another building active. -/
structure Collection.Stays (intent : Intent) (old new : Collection) : Prop where
  buildings : Kept Building.Stays old.buildings new.buildings
  others : Kept (fun b b' => old.activeId ≠ some b.id → b' = b) old.buildings new.buildings
  count : new.buildings.length = old.buildings.length ∨
    (∃ spec, intent = .createBuilding spec) ∧ new.buildings.length = old.buildings.length + 1
  activeId : new.activeId = old.activeId ∨ (∃ name, intent = .switchBuilding name) ∨
    ∃ spec, intent = .createBuilding spec

namespace Collection

variable {c : Collection} {b b' : Building}

theorem Stays.withBuilding {intent : Intent} (hids : (c.buildings.map (·.id)).Nodup)
    (hb : c.active? = some b) (h : b.Stays b') : Stays intent c (c.withBuilding b') := by
  refine ⟨.map fun x hx => ?_, .map fun x hx hactive => ?_, Or.inl ?_, Or.inl rfl⟩
  · split
    · rename_i hid
      rw [eq_of_active? hids hb hx (hid.trans h.id)]
      exact h
    · exact .refl x
  · split
    · rename_i hid
      rw [activeId_of_active? hb, hid, h.id] at hactive
      exact absurd rfl hactive
    · rfl
  · exact List.length_map _

end Collection

/-- **Nothing but the removal of floors takes anything away or moves it**: any other intent has an
    outcome, and if it leads to a new collection, what was in the old one is still there. -/
theorem Intent.apply_stays {intent : Intent} {c : Collection}
    (hids : (c.buildings.map (·.id)).Nodup) (hnumbers : ∀ b ∈ c.buildings, b.floorNumbers.Nodup)
    (hintent : ∀ count, intent ≠ .removeFloors count) (clock : Clock) (s : Stamps) :
    ∃ o s', intent.apply c clock s = .ok (o, s') ∧
      ∀ c', o.collection = some c' → Collection.Stays intent c c' := by
  obtain ⟨o, s', h⟩ :=
    apply_ok (fun b hb => hnumbers b (Collection.mem_of_active? hb)) intent clock s
  refine ⟨o, s', h, fun c' hc' => ?_⟩
  cases apply_effect h with
  | answered => cases hc'
  | switched =>
    cases hc'
    exact ⟨.refl .refl _, .refl (fun _ _ => rfl) _, Or.inl rfl, Or.inr (Or.inl ⟨_, rfl⟩)⟩
  | created =>
    cases hc'
    refine ⟨(Kept.refl .refl _).append _, (Kept.refl (fun _ _ => rfl) _).append _, ?_, ?_⟩
    · exact Or.inr ⟨⟨_, rfl⟩, by simp [Collection.withNewActive]⟩
    · exact Or.inr (Or.inr ⟨_, rfl⟩)
  | turned hb hturns =>
    cases hc'
    -- What is left alone on the active building is a question of its floors alone.
    have hnodup := hnumbers _ (Collection.mem_of_active? hb)
    exact .withBuilding hids hb (.of_turns hnodup hintent hturns)

/-- Two buildings of which the second one is active, with a map that is attached to a restroom. -/
def Collection.twoTowers : Collection :=
  { buildings := [.generate "building-1" "North" 2 1 1 1,
      (Building.generate "building-2" "South" 2 1 1 1).mapFloor "building-2-floor-1" fun f =>
        f.mapRestroom "building-2-floor-1-restroom-1" fun r => { r with map := some "plan" }]
    activeId := some "building-2" }

theorem Intent.addComponents_stays_twoTowers :
    (Collection.twoTowers.buildings.map (·.id)).Nodup ∧
    (∀ b ∈ Collection.twoTowers.buildings, b.floorNumbers.Nodup) ∧
    ∃ o s', Intent.apply (.addComponents .restroom 3 (some 1)) Collection.twoTowers (.still 60) {}
        = .ok (o, s') ∧ o.collection.isSome ∧
      ∀ c', o.collection = some c' →
        Collection.Stays (.addComponents .restroom 3 (some 1)) Collection.twoTowers c' := by
  have hids : (Collection.twoTowers.buildings.map (·.id)).Nodup := by decide
  have hnumbers : ∀ b ∈ Collection.twoTowers.buildings, b.floorNumbers.Nodup := by decide
  have hintent : ∀ count, addComponents .restroom 3 (some 1) ≠ .removeFloors count := by
    intro count h
    cases h
  obtain ⟨o, s', h, hstays⟩ := apply_stays hids hnumbers hintent (.still 60) {}
  refine ⟨hids, hnumbers, o, s', h, ?_, hstays⟩
  cases h
  rfl

end Floorplan
