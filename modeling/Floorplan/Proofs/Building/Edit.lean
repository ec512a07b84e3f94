import Floorplan.Proofs.Building.Growth
import Mathlib.Data.List.Perm.Subperm

set_option autoImplicit false

/-! # Edits keep buildings sound

An edit addresses floors, components and lifts by their ids and leaves the ids of all others as they
are. What it adds has a stamp. Where it removes a floor it numbers the others anew, so that the numbers
stay contiguous. The main result is `Edit.applyTo_sound`. -/

namespace Floorplan

variable {clock : Clock} {s : Stamps} {m n : Nat}

/-! ## Floors with other components -/

namespace Floor.Sound

variable {f : Floor}

theorem replaceRestrooms (h : f.Sound n) {restrooms : List Restroom}
    (hids : restrooms.map (·.id) = f.restrooms.map (·.id)) :
    f.TurnsInto n { f with restrooms } := by
  refine ⟨rfl, rfl, ?_, h.corridors, h.lifts⟩
  rw [hids]
  exact h.restrooms

theorem replaceCorridors (h : f.Sound n) {corridors : List Corridor}
    (hlifts : corridors.map (fun c => (c.id, c.lifts)) = f.corridors.map fun c => (c.id, c.lifts)) :
    f.TurnsInto n { f with corridors } := by
  have hids : corridors.map (·.id) = f.corridors.map (·.id) := by
    simpa only [List.map_map, Function.comp_def] using congrArg (List.map Prod.fst) hlifts
  refine ⟨rfl, rfl, h.restrooms, ?_, fun c hc => ?_⟩
  · rw [hids]
    exact h.corridors
  · have hmem : (c.id, c.lifts) ∈ f.corridors.map fun c => (c.id, c.lifts) := by
      rw [← hlifts]
      exact List.mem_map_of_mem hc
    obtain ⟨d, hd, heq⟩ := List.mem_map.1 hmem
    obtain ⟨hid, hl⟩ := Prod.mk.injEq .. ▸ heq
    rw [← hid, ← hl]
    exact h.lifts d hd

theorem mapRestroom (h : f.Sound n) (id : String) {edit : Restroom → Restroom}
    (hedit : ∀ r, (edit r).id = r.id) : f.TurnsInto n (f.mapRestroom id edit) := by
  refine h.replaceRestrooms ?_
  rw [List.map_map]
  refine List.map_congr_left fun r _ => ?_
  simp only [Function.comp_apply]
  split
  · exact hedit r
  · rfl

theorem mapCorridor (h : f.Sound m) (hmn : m ≤ n) (id : String) {edit : Corridor → Corridor}
    (hedit : ∀ c, c.id = id → (edit c).id = c.id)
    (hlifts : ∀ c, c.id = id → Series (Numbered (c.id ++ "-lift-") m) (c.lifts.map (·.id)) →
      Series (Numbered (c.id ++ "-lift-") n) ((edit c).lifts.map (·.id))) :
    f.TurnsInto n (f.mapCorridor id edit) := by
  have hids : (f.mapCorridor id edit).corridors.map (·.id) = f.corridors.map (·.id) := by
    simp only [Floor.mapCorridor, List.map_map]
    refine List.map_congr_left fun c _ => ?_
    simp only [Function.comp_apply]
    split
    · rename_i hc
      exact hedit c hc
    · rfl
  refine ⟨rfl, rfl, (h.mono hmn).restrooms, ?_, fun d hd => ?_⟩
  · rw [hids]
    exact (h.mono hmn).corridors
  · obtain ⟨c, hc, rfl⟩ := List.mem_map.1 hd
    split
    · rename_i hid
      rw [hedit c hid]
      exact hlifts c hid (h.lifts c hc)
    · exact (h.mono hmn).lifts c hc

theorem removeComponent (h : f.Sound n) (kind : ComponentKind) (id : String) :
    f.TurnsInto n (f.removeComponent kind id) := by
  cases kind with
  | restroom =>
    exact ⟨rfl, rfl, h.restrooms.sublist (List.filter_sublist.map _), h.corridors, h.lifts⟩
  | corridor =>
    exact ⟨rfl, rfl, h.restrooms, h.corridors.sublist (List.filter_sublist.map _),
      fun c hc => h.lifts c (List.mem_of_mem_filter hc)⟩

end Floor.Sound

/-! ## Numbering anew -/

theorem length_renumber (floors : List Floor) : (renumber floors).length = floors.length := by
  simp [renumber]

theorem map_number_renumber (floors : List Floor) :
    (renumber floors).map (·.number) = List.range' 1 floors.length := by
  apply List.ext_getElem (by simp [renumber])
  intro i _ _
  simp [renumber, Nat.add_comm]

/-- Numbering anew changes the order and the numbers, and nothing else. -/
theorem renumber_perm {α : Type} (φ : Floor → α) (hφ : ∀ f k, φ { f with number := k } = φ f)
    (floors : List Floor) : ((renumber floors).map φ).Perm (floors.map φ) := by
  have hsorted : (renumber floors).map φ
      = (floors.mergeSort fun f g => f.number ≤ g.number).map φ := by
    apply List.ext_getElem (by simp [renumber])
    intro i _ _
    simp [renumber, hφ]
  rw [hsorted]
  exact (List.mergeSort_perm _ _).map φ

theorem mem_renumber {floors : List Floor} {g : Floor} (hg : g ∈ renumber floors) :
    ∃ f ∈ floors, ∃ k, g = { f with number := k } := by
  obtain ⟨⟨f, i⟩, hf, rfl⟩ := List.mem_map.1 hg
  exact ⟨f, (List.mergeSort_perm _ _).mem_iff.1 (List.fst_mem_of_mem_zipIdx hf), i + 1, rfl⟩

/-- The floors that are left over, numbered anew. -/
theorem Building.Sound.renumber {b : Building} (h : b.Sound n) {floors : List Floor}
    (hsub : floors.Subperm b.floors) :
    Building.Sound n
      { b with totalFloors := floors.length, floors := Floorplan.renumber floors } := by
  have hids := renumber_perm (·.id) (fun _ _ => rfl) floors
  obtain ⟨left, hperm, hleft⟩ := hsub
  refine ⟨?_, ?_, ?_, fun g hg => ?_⟩
  · simp only [length_renumber]
  · simp only [floorNumbers, map_number_renumber, length_renumber]
  · exact (h.floorIds.sublist (hleft.map _)).perm (hids.trans (hperm.map _).symm)
  · obtain ⟨f, hf, k, rfl⟩ := mem_renumber hg
    obtain ⟨hrestrooms, hcorridors, hlifts⟩ := h.floors f (hleft.subset (hperm.symm.subset hf))
    exact ⟨hrestrooms, hcorridors, hlifts⟩

/-! ## The edits -/

namespace Building.Sound

variable {b : Building}

theorem synced (h : b.Sound n) : b.synced.Sound n :=
  ⟨rfl, h.floorNumbers_eq, h.floorIds, h.floors⟩

theorem removeFloor (h : b.Sound n) (floorId : String) : (b.removeFloor floorId).Sound n := by
  unfold Building.removeFloor
  split
  · exact h
  · have hleft := h.renumber (List.filter_sublist (p := fun f => f.id ≠ floorId)).subperm
    simpa only [Building.synced, length_renumber] using hleft

theorem addComponent (hclock : clock.IsPast Intent.maxQuantity) (h : b.Sound s.high)
    (kind : ComponentKind) (floorId : String) :
    (b.addComponent kind floorId clock s).1.Sound (b.addComponent kind floorId clock s).2.high := by
  unfold Building.addComponent
  split
  · exact h
  · rename_i f hf
    have hle := f.high_le_appendComponents hclock kind 1 s
    refine h.mapFloors hle fun g hg hsound => ?_
    split
    -- The floor that was found is the only one of its id, so nothing is put in the place of another.
    · rename_i hid
      rw [Building.eq_of_floorById? h.floorIds.nodup hf hg hid] at hsound ⊢
      exact hsound.appendComponents hclock kind 1
    · exact .refl (hsound.mono hle)

theorem addLift (hclock : clock.IsPast Intent.maxQuantity) (h : b.Sound s.high)
    (floorId corridorId : String) :
    (b.addLift floorId corridorId clock s).1.Sound
      (b.addLift floorId corridorId clock s).2.high := by
  have hle := Stamps.high_le_draw hclock s 1
  refine h.mapFloor hle fun f hf => ?_
  refine hf.mapCorridor hle corridorId (fun _ _ => rfl) fun c hc hlifts => ?_
  subst hc
  have hdrawn := hlifts.append_drawn hclock 1
  rw [List.map_append]
  exact hdrawn

theorem renameComponent (h : b.Sound n) (kind : ComponentKind)
    (floorId componentId name : String) :
    (b.renameComponent kind floorId componentId name).Sound n := by
  refine h.mapFloor le_rfl fun f hf => ?_
  cases kind with
  | restroom => exact hf.mapRestroom componentId fun _ => rfl
  | corridor => exact hf.mapCorridor le_rfl componentId (fun _ _ => rfl) fun _ _ hlifts => hlifts

end Building.Sound

theorem Edit.high_le_applyTo (hclock : clock.IsPast Intent.maxQuantity) (e : Edit) (b : Building)
    (s : Stamps) : s.high ≤ (e.applyTo b clock s).2.high := by
  cases e with
  | addFloor => exact Stamps.high_le_draw hclock s 1
  | appendFloors count => exact Stamps.high_le_draw hclock s count
  | addComponent kind floor =>
    simp only [applyTo, Building.addComponent]
    split
    · exact le_rfl
    · exact Floor.high_le_appendComponents hclock _ kind 1 s
  | addLift floor corridor => exact Stamps.high_le_next hclock s
  | removeFloor | removeComponent | removeLift | renameFloor | renameComponent | renumber | synced =>
    exact le_rfl

theorem Edit.id_applyTo (e : Edit) (b : Building) (clock : Clock) (s : Stamps) :
    (e.applyTo b clock s).1.id = b.id := by
  cases e with
  | removeFloor floor =>
    simp only [applyTo, Building.removeFloor]
    split <;> rfl
  | addComponent kind floor =>
    simp only [applyTo, Building.addComponent]
    split <;> rfl
  | addFloor | appendFloors | removeComponent | addLift | removeLift | renameFloor | renameComponent
  | renumber | synced => rfl

/-- **Every edit keeps a building sound**, as long as its floors can be counted by a word. -/
theorem Edit.applyTo_sound (hclock : clock.IsPast Intent.maxQuantity) (e : Edit) {b : Building}
    (h : b.Sound s.high) (hfits : (e.applyTo b clock s).1.floors.length < wordLimit) :
    (e.applyTo b clock s).1.Sound (e.applyTo b clock s).2.high := by
  cases e with
  | addFloor => exact h.appendFloors hclock (by simpa [applyTo, Building.addFloor,
      Building.length_appendFloors] using hfits)
  | appendFloors count =>
    exact h.appendFloors hclock (by simpa [applyTo, Building.length_appendFloors] using hfits)
  | removeFloor floor => exact h.removeFloor floor
  | addComponent kind floor => exact h.addComponent hclock kind floor
  | removeComponent kind floor component =>
    exact h.mapFloor le_rfl fun f hf => hf.removeComponent kind component
  | addLift floor corridor => exact h.addLift hclock floor corridor
  | removeLift floor corridor lift =>
    exact h.mapFloor le_rfl fun f hf =>
      hf.mapCorridor le_rfl corridor (fun _ _ => rfl) fun _ _ hlifts =>
        hlifts.sublist (List.filter_sublist.map _)
  | renameFloor floor name =>
    exact h.mapFloor le_rfl fun f hf => ⟨rfl, rfl, hf.restrooms, hf.corridors, hf.lifts⟩
  | renameComponent kind floor component name => exact h.renameComponent kind floor component name
  | renumber =>
    have hnumbered := h.renumber (List.Subperm.refl b.floors)
    simpa only [applyTo, ← h.totalFloors_eq] using hnumbered
  | synced => exact h.synced

end Floorplan
