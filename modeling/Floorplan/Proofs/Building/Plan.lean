import Floorplan.Proofs.Building.Issued
import Floorplan.Proofs.Building.Lookup

set_option autoImplicit false

/-! # Buildings without their ids

The plan of a building is what is left of it without ids. Ids that are made for something new are the
only place where stamps get to, so what the plan is after something was added depends neither on the
clock nor on the stamps: `Floor.plan_appendComponents` and `Building.plan_appendFloors` say so by
adding to the plan itself, with a clock that shows nothing. The plan of a collection has the
place of the active building instead of its id. As long as ids are distinct it says what a collection
becomes when its active building is changed, or another one is made active or added. -/

namespace Floorplan

/-! ## Taking ids away -/

/-- The lift without its id. -/
def Lift.plan (l : Lift) : Lift := { l with id := "" }

/-- The restroom without its id. -/
def Restroom.plan (r : Restroom) : Restroom := { r with id := "" }

/-- The corridor and its lifts without ids. -/
def Corridor.plan (c : Corridor) : Corridor := { c with id := "", lifts := c.lifts.map Lift.plan }

/-- The floor and everything on it without ids. -/
def Floor.plan (f : Floor) : Floor :=
  { f with
    id := ""
    restrooms := f.restrooms.map Restroom.plan
    corridors := f.corridors.map Corridor.plan }

/-- The building and everything in it without ids. -/
def Building.plan (b : Building) : Building := { b with id := "", floors := b.floors.map Floor.plan }

@[simp] theorem Lift.plan_plan (l : Lift) : l.plan.plan = l.plan := rfl

@[simp] theorem Restroom.plan_plan (r : Restroom) : r.plan.plan = r.plan := rfl

@[simp] theorem Restroom.name_plan (r : Restroom) : r.plan.name = r.name := rfl

@[simp] theorem Corridor.name_plan (c : Corridor) : c.plan.name = c.name := rfl

@[simp] theorem Corridor.plan_plan (c : Corridor) : c.plan.plan = c.plan := by
  simp [plan, Function.comp_def]

@[simp] theorem Floor.number_plan (f : Floor) : f.plan.number = f.number := rfl

@[simp] theorem Floor.displayName_plan (f : Floor) : f.plan.displayName = f.displayName := rfl

@[simp] theorem Floor.plan_plan (f : Floor) : f.plan.plan = f.plan := by
  simp [plan, Function.comp_def]

@[simp] theorem ComponentKind.countOn_plan (kind : ComponentKind) (f : Floor) :
    kind.countOn f.plan = kind.countOn f := by
  cases kind <;> simp [countOn, Floor.plan]

namespace Building

variable {b : Building}

@[simp] theorem id_plan (b : Building) : b.plan.id = "" := rfl

@[simp] theorem name_plan (b : Building) : b.plan.name = b.name := rfl

@[simp] theorem totalFloors_plan (b : Building) : b.plan.totalFloors = b.totalFloors := rfl

@[simp] theorem plan_plan (b : Building) : b.plan.plan = b.plan := by
  simp [plan, Function.comp_def]

@[simp] theorem floors_plan (b : Building) : b.plan.floors = b.floors.map Floor.plan := rfl

@[simp] theorem floorNumbers_plan (b : Building) : b.plan.floorNumbers = b.floorNumbers := by
  simp [floorNumbers, Function.comp_def]

@[simp] theorem maxFloorNumber_plan (b : Building) : b.plan.maxFloorNumber = b.maxFloorNumber := by
  simp only [maxFloorNumber, floorNumbers_plan]

theorem floorByNumber?_plan (b : Building) (number : Nat) :
    b.plan.floorByNumber? number = (b.floorByNumber? number).map Floor.plan := by
  rw [floorByNumber?, floors_plan, List.find?_map]
  rfl

/-- An edit of the floors of a number that takes no notice of ids. -/
theorem plan_mapNumbered (b : Building) (number : Nat) {edit edit' : Floor → Floor}
    (h : ∀ f, (edit f).plan = (edit' f.plan).plan) :
    (b.mapNumbered number edit).plan = (b.plan.mapNumbered number edit').plan := by
  simp only [plan, mapNumbered, Building.mk.injEq, true_and, List.map_map]
  refine List.map_congr_left fun f _ => ?_
  simp only [Function.comp_apply]
  by_cases hf : f.number = number
  · have hplan : f.plan.number = number := hf
    rw [if_pos hf, if_pos hplan]
    exact h f
  · have hplan : f.plan.number ≠ number := hf
    rw [if_neg hf, if_neg hplan]
    exact f.plan_plan.symm

end Building

/-! ## Something new -/

theorem Restroom.plan_generate (id : String) (index : Nat) :
    (generate id index).plan = generate "" index := rfl

theorem Corridor.plan_generate (id id' : String) (index lifts : Nat) :
    (generate id index lifts).plan = (generate id' index lifts).plan := by
  simp [generate, plan, Lift.plan, Function.comp_def]

theorem Floor.plan_generate (id id' : String) (number restrooms corridors lifts : Nat) :
    (generate id number restrooms corridors lifts).plan
      = (generate id' number restrooms corridors lifts).plan := by
  simp only [generate, plan, List.map_map, Function.comp_def, Restroom.plan_generate]
  simp only [Corridor.plan_generate _ ""]

theorem Building.plan_generate (id id' name : String) (floors restrooms corridors lifts : Nat) :
    (generate id name floors restrooms corridors lifts).plan
      = (generate id' name floors restrooms corridors lifts).plan := by
  simp only [generate, plan, List.map_map, Function.comp_def]
  simp only [Floor.plan_generate _ ""]

/-- What is made from the places of a list depends on its length only. -/
theorem map_zipIdx_snd {α β : Type} (xs : List α) (make : Nat → β) :
    (xs.zipIdx.map fun x => make x.2) = (List.range xs.length).map make := by
  apply List.ext_getElem <;> simp

namespace Floor

theorem plan_appendRestrooms (f : Floor) (count : Nat) (clock : Clock) (s : Stamps) :
    (f.appendRestrooms count clock s).1.plan
      = (f.plan.appendRestrooms count (.still 0) {}).1.plan := by
  simp [appendRestrooms, plan, Function.comp_def, Restroom.plan_generate, map_zipIdx_snd _
    fun i => Restroom.generate "" (f.restrooms.length + i)]

theorem plan_appendCorridors (f : Floor) (count : Nat) (clock : Clock) (s : Stamps) :
    (f.appendCorridors count clock s).1.plan
      = (f.plan.appendCorridors count (.still 0) {}).1.plan := by
  simp [appendCorridors, plan, Function.comp_def, Corridor.plan_generate _ "", map_zipIdx_snd _
    fun i => (Corridor.generate "" (f.corridors.length + i) defaultLifts).plan]

/-- Components that are added do not show when they were added. -/
theorem plan_appendComponents (f : Floor) (kind : ComponentKind) (count : Nat) (clock : Clock)
    (s : Stamps) :
    (f.appendComponents kind count clock s).1.plan
      = (f.plan.appendComponents kind count (.still 0) {}).1.plan := by
  cases kind with
  | restroom => exact f.plan_appendRestrooms count clock s
  | corridor => exact f.plan_appendCorridors count clock s

end Floor

/-- What is to be seen of floors that are added. -/
theorem Building.plan_appendFloors_eq (b : Building) (count : Nat) (clock : Clock) (s : Stamps) :
    (b.appendFloors count clock s).1.plan =
      { b.plan with
        totalFloors := b.floors.length + count
        floors := b.plan.floors ++ (List.range count).map fun i =>
          (Floor.generateDefault "" (wrap (b.maxFloorNumber + (i + 1)))).plan } := by
  have hadded : ∀ (id : String) (number : Nat), (Floor.generateDefault id number).plan
      = (Floor.generateDefault "" number).plan := fun id number => Floor.plan_generate ..
  simp [appendFloors, synced, plan, Function.comp_def, hadded _ (wrap _), map_zipIdx_snd _
    fun i => (Floor.generateDefault "" (wrap (b.maxFloorNumber + (i + 1)))).plan]

/-- Floors that are added do not show when they were added. -/
theorem Building.plan_appendFloors (b : Building) (count : Nat) (clock : Clock) (s : Stamps) :
    (b.appendFloors count clock s).1.plan = (b.plan.appendFloors count (.still 0) {}).1.plan := by
  simp [plan_appendFloors_eq]

/-! ## Collections -/

/-- What is left of a collection without ids: the plans of the buildings, and the place of the active
one. -/
structure Plan where
  buildings : List Building
  active : Option Nat
  deriving DecidableEq

namespace Collection

variable {c : Collection} {b b' : Building} {i : Nat}

/-- The place of the active building. -/
def activeIndex? (c : Collection) : Option Nat :=
  c.activeId.bind fun id => c.buildings.findIdx? fun b => b.id = id

/-- The collection without ids. -/
def plan (c : Collection) : Plan := ⟨c.buildings.map Building.plan, c.activeIndex?⟩

theorem active?_eq (c : Collection) : c.active? = c.activeIndex?.bind (c.buildings[·]?) := by
  rw [activeIndex?, Option.bind_assoc, active?]
  congr 1
  funext id
  exact List.find?_eq_bind_findIdx?_getElem?

theorem plan_active? (c : Collection) :
    c.active?.map Building.plan = c.plan.active.bind (c.plan.buildings[·]?) := by
  rw [active?_eq]
  cases h : c.activeIndex? <;> simp [plan, h]

theorem names_eq (c : Collection) : c.names = c.plan.buildings.map (·.name) := by
  simp [names, plan, Function.comp_def]

theorem plan_findByName? (c : Collection) (name : String) :
    (c.findByName? name).map Building.plan
      = c.plan.buildings.find? fun b => Text.lower b.name = Text.lower name := by
  rw [findByName?, plan, List.find?_map]
  rfl

/-- Where ids are distinct, an id stands at one place only. -/
theorem getElem_id_inj (hids : (c.buildings.map (·.id)).Nodup) {j : Nat} {hi : i < c.buildings.length}
    {hj : j < c.buildings.length} (h : c.buildings[i].id = c.buildings[j].id) : i = j := by
  have hi' : i < (c.buildings.map (·.id)).length := by simpa using hi
  have hj' : j < (c.buildings.map (·.id)).length := by simpa using hj
  have heq : (c.buildings.map (·.id))[i] = (c.buildings.map (·.id))[j] := by simpa using h
  exact hids.getElem_inj_iff.1 heq

theorem findIdx?_id (hids : (c.buildings.map (·.id)).Nodup) (hi : i < c.buildings.length) :
    (c.buildings.findIdx? fun b => b.id = c.buildings[i].id) = some i := by
  refine List.findIdx?_eq_some_iff_getElem.2 ⟨hi, by simp, fun j hj heq => ?_⟩
  have hij := getElem_id_inj hids (by simpa using heq)
  omega

/-- The active building and its place. -/
theorem exists_activeIndex? (hb : c.active? = some b) :
    ∃ i, ∃ hi : i < c.buildings.length, c.activeIndex? = some i ∧ c.buildings[i] = b := by
  rw [active?_eq] at hb
  obtain ⟨i, hi, hget⟩ := Option.bind_eq_some_iff.1 hb
  obtain ⟨hlt, hbi⟩ := List.getElem?_eq_some_iff.1 hget
  exact ⟨i, hlt, hi, hbi⟩

/-- Where ids are distinct, a building is at the place of the active one if its id is the active one. -/
theorem activeIndex?_eq_some_iff (hids : (c.buildings.map (·.id)).Nodup)
    (hi : i < c.buildings.length) :
    c.activeIndex? = some i ↔ c.activeId = some c.buildings[i].id := by
  constructor
  · intro h
    obtain ⟨id, hid, hfound⟩ := Option.bind_eq_some_iff.1 h
    obtain ⟨_, heq, -⟩ := List.findIdx?_eq_some_iff_getElem.1 hfound
    rw [hid, ← of_decide_eq_true heq]
  · intro h
    rw [activeIndex?, h, Option.bind_some, findIdx?_id hids]

/-- What takes the place of the active building takes it in the plan. -/
theorem plan_withBuilding (hids : (c.buildings.map (·.id)).Nodup) (hb : c.active? = some b)
    (hid : b'.id = b.id) (hi : c.activeIndex? = some i) :
    (c.withBuilding b').plan = ⟨c.plan.buildings.set i b'.plan, some i⟩ := by
  obtain ⟨j, hlt, hj, rfl⟩ := exists_activeIndex? hb
  obtain rfl : j = i := Option.some.inj (hj.symm.trans hi)
  have hactive : (c.withBuilding b').activeIndex? = some j := by
    rw [activeIndex?_eq_some_iff (by rwa [map_id_withBuilding]) (by simpa [withBuilding] using hlt)]
    simpa [withBuilding, hid] using (activeIndex?_eq_some_iff hids hlt).1 hi
  rw [plan, hactive, Plan.mk.injEq]
  refine ⟨List.ext_getElem (by simp [withBuilding, plan]) fun k hk _ => ?_, rfl⟩
  simp only [withBuilding, List.length_map] at hk
  simp only [plan, withBuilding, hid, List.map_map, List.getElem_map, Function.comp_apply,
    List.getElem_set]
  by_cases hjk : j = k
  · subst hjk
    rw [if_pos rfl, if_pos rfl]
  · rw [if_neg fun heq => hjk (getElem_id_inj hids heq).symm, if_neg hjk]

theorem plan_withNewActive (hnew : b.id ∉ c.buildings.map (·.id)) :
    (c.withNewActive b).plan = ⟨c.plan.buildings ++ [b.plan], some c.plan.buildings.length⟩ := by
  have hnone : (c.buildings.findIdx? fun x => x.id = b.id) = none := by
    rw [List.findIdx?_eq_none_iff]
    intro x hx
    have hne : x.id ≠ b.id := fun heq => hnew (heq ▸ List.mem_map_of_mem hx)
    simp [hne]
  simp [plan, withNewActive, activeIndex?, List.findIdx?_append, hnone]

/-- Where ids are distinct, what is found by a name is active at the place where it is found. -/
theorem plan_withActive (hids : (c.buildings.map (·.id)).Nodup) {name : String}
    (hb : c.findByName? name = some b) :
    plan { c with activeId := some b.id } = ⟨c.plan.buildings,
      c.plan.buildings.findIdx? fun b => Text.lower b.name = Text.lower name⟩ := by
  rw [findByName?, List.find?_eq_bind_findIdx?_getElem?] at hb
  obtain ⟨i, hi, hget⟩ := Option.bind_eq_some_iff.1 hb
  obtain ⟨hlt, rfl⟩ := List.getElem?_eq_some_iff.1 hget
  have hplan : (c.plan.buildings.findIdx? fun b => Text.lower b.name = Text.lower name) = some i := by
    rw [← hi, plan, List.findIdx?_map]
    rfl
  rw [hplan, plan, activeIndex?, Option.bind_some, findIdx?_id hids hlt]
  rfl

end Collection

end Floorplan
