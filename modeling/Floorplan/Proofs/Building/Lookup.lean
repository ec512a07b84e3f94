import Floorplan.Building.Collection
import Floorplan.Building.Edit
import Mathlib.Data.List.Nodup

set_option autoImplicit false

/-! # Looking up by id and number

Looking up takes the first that fits, and an edit is made to all that fit. Where ids or numbers are
distinct the two come to the same: what fits is what is found, and it is the active building that an
edit of the active building changes. -/

namespace Floorplan

/-! ## Floors -/

namespace Building

variable {b : Building} {f g : Floor} {number : Nat} {id : String}

theorem number_eq_of_floorByNumber? (h : b.floorByNumber? number = some f) : f.number = number := by
  simpa using List.find?_some h

/-- The floor that is found for a number is the only one. -/
theorem eq_of_floorByNumber? (hnodup : b.floorNumbers.Nodup)
    (hf : b.floorByNumber? number = some f) (hg : g ∈ b.floors) (hnumber : g.number = number) :
    g = f := by
  have hmem := List.mem_of_find?_eq_some hf
  have hfound := number_eq_of_floorByNumber? hf
  exact List.inj_on_of_nodup_map hnodup hg hmem (hnumber.trans hfound.symm)

/-- The floor that is found for an id is the only one. -/
theorem eq_of_floorById? (hnodup : (b.floors.map (·.id)).Nodup) (hf : b.floorById? id = some f)
    (hg : g ∈ b.floors) (hid : g.id = id) : g = f := by
  have hmem := List.mem_of_find?_eq_some hf
  have hfound : f.id = id := by simpa using List.find?_some hf
  exact List.inj_on_of_nodup_map hnodup hg hmem (hid.trans hfound.symm)

/-- Where numbers are distinct, putting a floor made from the one that is found in its place is
    editing it. -/
theorem mapNumbered_const (hnodup : b.floorNumbers.Nodup) (hf : b.floorByNumber? number = some f)
    (edit : Floor → Floor) : b.mapNumbered number (fun _ => edit f) = b.mapNumbered number edit := by
  simp only [mapNumbered, Building.mk.injEq, true_and]
  refine List.map_congr_left fun g hg => ?_
  split
  · rename_i hnumber
    rw [eq_of_floorByNumber? hnodup hf hg hnumber]
  · rfl

/-- The floor of a number after an edit of the floors of that number. -/
theorem floorByNumber?_mapNumbered {edit : Floor → Floor}
    (hedit : ∀ f, f.number = number → (edit f).number = number)
    (hf : b.floorByNumber? number = some f) :
    (b.mapNumbered number edit).floorByNumber? number = some (edit f) := by
  have hkept : ∀ g, (if g.number = number then edit g else g).number = number
      ↔ g.number = number := by
    intro g
    split
    · rename_i hg
      exact iff_of_true (hedit g hg) hg
    · exact Iff.rfl
  have hfound := number_eq_of_floorByNumber? hf
  simp only [floorByNumber?, mapNumbered, List.find?_map, Function.comp_def, hkept]
  rw [floorByNumber?] at hf
  rw [hf, Option.map_some, if_pos hfound]

theorem notMem_floorNumbers (h : b.floorByNumber? number = none) : number ∉ b.floorNumbers := by
  intro hmem
  obtain ⟨f, hf, rfl⟩ := List.mem_map.1 hmem
  simpa using List.find?_eq_none.1 h f hf

theorem mem_floorNumbers (h : b.floorByNumber? number = some f) : number ∈ b.floorNumbers :=
  List.mem_map.2 ⟨f, List.mem_of_find?_eq_some h, number_eq_of_floorByNumber? h⟩

theorem length_floors_eq {b' : Building} (h : b'.floorNumbers = b.floorNumbers) :
    b'.floors.length = b.floors.length := by
  simpa only [floorNumbers, List.length_map] using congrArg List.length h

end Building

/-! ## Buildings -/

namespace Collection

variable {c : Collection} {b b' : Building}

theorem mem_of_active? (h : c.active? = some b) : b ∈ c.buildings := by
  obtain ⟨id, -, hfound⟩ := Option.bind_eq_some_iff.1 h
  exact List.mem_of_find?_eq_some hfound

theorem activeId_of_active? (h : c.active? = some b) : c.activeId = some b.id := by
  obtain ⟨id, hid, hfound⟩ := Option.bind_eq_some_iff.1 h
  have hbid : b.id = id := by simpa using List.find?_some hfound
  rw [hid, hbid]

/-- Where ids are distinct, what has the id of the active building is the active building. -/
theorem eq_of_active? (hids : (c.buildings.map (·.id)).Nodup) (hb : c.active? = some b)
    (hmem : b' ∈ c.buildings) (hid : b'.id = b.id) : b' = b :=
  List.inj_on_of_nodup_map hids hmem (mem_of_active? hb) hid

/-- Where ids are distinct, the building whose id is the active one is active. -/
theorem active?_of_mem (hids : (c.buildings.map (·.id)).Nodup) (hactive : c.activeId = some b.id)
    (hb : b ∈ c.buildings) : c.active? = some b := by
  have hsome : (c.buildings.find? fun x => x.id = b.id).isSome := by
    rw [List.find?_isSome]
    exact ⟨b, hb, by simp⟩
  obtain ⟨x, hx⟩ := Option.isSome_iff_exists.1 hsome
  have hid : x.id = b.id := by simpa using List.find?_some hx
  rw [active?, hactive, Option.bind_some, findById?, hx,
    List.inj_on_of_nodup_map hids (List.mem_of_find?_eq_some hx) hb hid]

theorem map_id_withBuilding (c : Collection) (b : Building) :
    (c.withBuilding b).buildings.map (·.id) = c.buildings.map (·.id) := by
  simp only [withBuilding, List.map_map]
  refine List.map_congr_left fun x _ => ?_
  simp only [Function.comp_apply]
  split
  · rename_i hid
    exact hid.symm
  · rfl

/-- What takes the place of the active building is in the collection. -/
theorem mem_withBuilding (h : c.active? = some b) (hid : b'.id = b.id) :
    b' ∈ (c.withBuilding b').buildings := by
  refine List.mem_map.2 ⟨b, mem_of_active? h, ?_⟩
  rw [if_pos hid.symm]

/-- What takes the place of the active building is active, even if other buildings have the same id:
    it takes their places too. -/
theorem active?_withBuilding (hb : c.active? = some b) (hid : b'.id = b.id) :
    (c.withBuilding b').active? = some b' := by
  have hactive := activeId_of_active? hb
  have hkept : ∀ x : Building, (if x.id = b'.id then b' else x).id = b.id ↔ x.id = b.id := by
    intro x
    split
    · rename_i hx
      exact iff_of_true hid (hx.trans hid)
    · exact Iff.rfl
  rw [active?, hactive, Option.bind_some, findById?] at hb
  simp only [active?, findById?, withBuilding, hactive, Option.bind_some, List.find?_map,
    Function.comp_def, hkept]
  rw [hb, Option.map_some, if_pos hid.symm]

theorem withBuilding_withBuilding (c : Collection) {b b' : Building} (hid : b'.id = b.id) :
    (c.withBuilding b).withBuilding b' = c.withBuilding b' := by
  simp only [withBuilding, List.map_map, mk.injEq, and_true]
  refine List.map_congr_left fun x _ => ?_
  simp only [Function.comp_apply, hid]
  by_cases hx : x.id = b.id <;> simp [hx]

/-- Putting a building in its own place changes nothing, unless it takes the place of another. -/
theorem withBuilding_eq_self_iff :
    c.withBuilding b = c ↔ ∀ x ∈ c.buildings, x.id = b.id → x = b := by
  have hmap : c.withBuilding b = c ↔
      (c.buildings.map fun x => if x.id = b.id then b else x) = c.buildings.map id := by
    rw [List.map_id]
    exact ⟨congrArg Collection.buildings, fun h => congrArg (Collection.mk · c.activeId) h⟩
  rw [hmap, List.map_inj_left]
  refine forall_congr' fun x => forall_congr' fun _ => ?_
  by_cases hx : x.id = b.id
  · simp [hx, eq_comm]
  · simp [hx]

theorem withBuilding_self (hids : (c.buildings.map (·.id)).Nodup) (hb : c.active? = some b) :
    c.withBuilding b = c :=
  withBuilding_eq_self_iff.2 fun _ hx hid => eq_of_active? hids hb hx hid

end Collection

end Floorplan
