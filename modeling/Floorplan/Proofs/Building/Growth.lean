import Floorplan.Proofs.Building.WellFormed

set_option autoImplicit false

/-! # Growth keeps buildings sound

What is generated in one go is counted within the largest quantity of a request; what is appended has
freshly drawn stamps. Floors that are appended go on with the numbers as long as they fit a word. -/

namespace Floorplan

variable {clock : Clock} {s : Stamps}

/-! ## Floors -/

theorem Corridor.lifts_generate (id : String) (index : Nat) {lifts bound : Nat}
    (h : lifts ≤ bound) :
    Series (Numbered ((Corridor.generate id index lifts).id ++ "-lift-") bound)
      ((Corridor.generate id index lifts).lifts.map (·.id)) := by
  have := Series.counted (id ++ "-lift-") h
  simpa only [generate, List.map_map, Function.comp_def] using this

theorem Floor.Sound.generate (id : String) (number : Nat) {restrooms corridors lifts bound : Nat}
    (hrestrooms : restrooms ≤ bound) (hcorridors : corridors ≤ bound) (hlifts : lifts ≤ bound) :
    (Floor.generate id number restrooms corridors lifts).Sound bound := by
  refine ⟨?_, ?_, fun c hc => ?_⟩
  · have := Series.counted (id ++ "-restroom-") hrestrooms
    simpa only [Floor.generate, Restroom.generate, List.map_map, Function.comp_def] using this
  · have := Series.counted (id ++ "-corridor-") hcorridors
    simpa only [Floor.generate, Corridor.generate, List.map_map, Function.comp_def] using this
  · obtain ⟨j, -, rfl⟩ := List.mem_map.1 hc
    exact Corridor.lifts_generate _ _ hlifts

theorem Floor.Sound.generateDefault (id : String) (number : Nat) (s : Stamps) :
    (Floor.generateDefault id number).Sound s.high := by
  have hle : 2 ≤ s.high := le_trans (by decide) s.maxQuantity_le_high
  exact .generate id number hle hle hle

theorem map_zipIdx_fst (stamps : List Nat) (idOf : Nat → String) :
    (stamps.zipIdx.map fun x => idOf x.1) = stamps.map idOf := by
  calc (stamps.zipIdx.map fun x => idOf x.1)
      = (stamps.zipIdx.map Prod.fst).map idOf := by rw [List.map_map]; rfl
    _ = stamps.map idOf := by rw [List.zipIdx_map_fst]

theorem Floor.restroomIds_appendRestrooms (f : Floor) (count : Nat) (clock : Clock) (s : Stamps) :
    (f.appendRestrooms count clock s).1.restrooms.map (·.id) = f.restrooms.map (·.id) ++
      (s.draw clock count).1.map fun stamp => f.id ++ "-restroom-" ++ toString stamp := by
  simp only [appendRestrooms, List.map_append, List.map_map]
  exact congrArg _ (map_zipIdx_fst _ fun stamp => f.id ++ "-restroom-" ++ toString stamp)

theorem Floor.corridorIds_appendCorridors (f : Floor) (count : Nat) (clock : Clock) (s : Stamps) :
    (f.appendCorridors count clock s).1.corridors.map (·.id) = f.corridors.map (·.id) ++
      (s.draw clock count).1.map fun stamp => f.id ++ "-corridor-" ++ toString stamp := by
  simp only [appendCorridors, List.map_append, List.map_map]
  exact congrArg _ (map_zipIdx_fst _ fun stamp => f.id ++ "-corridor-" ++ toString stamp)

theorem Floor.Sound.appendRestrooms (hclock : clock.IsPast Intent.maxQuantity) {f : Floor}
    (h : f.Sound s.high) (count : Nat) :
    f.TurnsInto (f.appendRestrooms count clock s).2.high (f.appendRestrooms count clock s).1 := by
  have hmono := h.mono (Stamps.high_le_draw hclock s count)
  refine ⟨rfl, rfl, ?_, hmono.corridors, hmono.lifts⟩
  rw [restroomIds_appendRestrooms]
  exact h.restrooms.append_drawn hclock count

theorem Floor.Sound.appendCorridors (hclock : clock.IsPast Intent.maxQuantity) {f : Floor}
    (h : f.Sound s.high) (count : Nat) :
    f.TurnsInto (f.appendCorridors count clock s).2.high (f.appendCorridors count clock s).1 := by
  have hmono := h.mono (Stamps.high_le_draw hclock s count)
  refine ⟨rfl, rfl, hmono.restrooms, ?_, fun c hc => ?_⟩
  · rw [corridorIds_appendCorridors]
    exact h.corridors.append_drawn hclock count
  · rcases List.mem_append.1 hc with hc | hc
    · exact hmono.lifts c hc
    · obtain ⟨x, -, rfl⟩ := List.mem_map.1 hc
      exact Corridor.lifts_generate _ _ (le_trans (by decide) (Stamps.maxQuantity_le_high _))

theorem Floor.Sound.appendComponents (hclock : clock.IsPast Intent.maxQuantity) {f : Floor}
    (h : f.Sound s.high) (kind : ComponentKind) (count : Nat) :
    f.TurnsInto (f.appendComponents kind count clock s).2.high
      (f.appendComponents kind count clock s).1 := by
  cases kind with
  | restroom => exact h.appendRestrooms hclock count
  | corridor => exact h.appendCorridors hclock count

theorem Floor.high_le_appendComponents (hclock : clock.IsPast Intent.maxQuantity) (f : Floor)
    (kind : ComponentKind) (count : Nat) (s : Stamps) :
    s.high ≤ (f.appendComponents kind count clock s).2.high := by
  cases kind <;> exact Stamps.high_le_draw hclock s count

/-! ## Buildings -/

theorem Building.Sound.generate (id name : String) {floors restrooms corridors lifts : Nat}
    {bound : Nat} (hrestrooms : restrooms ≤ bound) (hcorridors : corridors ≤ bound)
    (hlifts : lifts ≤ bound) :
    (Building.generate id name floors restrooms corridors lifts).Sound bound := by
  refine ⟨by simp [Building.generate], ?_, ⟨?_, ?_⟩, fun f hf => ?_⟩
  · simp only [floorNumbers, Building.generate, List.map_map, Function.comp_def, Floor.generate,
      List.length_map, List.length_range]
    rw [List.range'_eq_map_range]
    exact List.map_congr_left fun i _ => Nat.add_comm i 1
  · have := (Series.counted (id ++ "-floor-") (le_refl floors)).nodup
    simpa only [Building.generate, Floor.generate, List.map_map, Function.comp_def] using this
  · intro x hx
    simp only [Building.generate, List.map_map, List.mem_map] at hx
    obtain ⟨i, -, rfl⟩ := hx
    exact Or.inl ⟨i + 1, rfl⟩
  · obtain ⟨i, -, rfl⟩ := List.mem_map.1 hf
    exact .generate _ _ hrestrooms hcorridors hlifts

theorem foldl_max_range' (n : Nat) : (List.range' 1 n).foldl max 0 = n := by
  induction n with
  | zero => rfl
  | succ n ih =>
    rw [List.range'_concat, List.foldl_append, ih]
    simp only [List.foldl_cons, List.foldl_nil]
    omega

/-- In a sound building the largest floor number is the number of floors. -/
theorem Building.Sound.maxFloorNumber_eq {b : Building} {bound : Nat} (h : b.Sound bound) :
    b.maxFloorNumber = b.floors.length := by
  rw [maxFloorNumber, h.floorNumbers_eq, foldl_max_range']

theorem Building.length_appendFloors (b : Building) (count : Nat) (clock : Clock) (s : Stamps) :
    (b.appendFloors count clock s).1.floors.length = b.floors.length + count := by
  simp [appendFloors, synced]

/-- The numbers of appended floors, as long as they fit a word. -/
theorem map_wrap_zipIdx {stamps : List Nat} {top : Nat} (h : top + stamps.length < wordLimit) :
    (stamps.zipIdx.map fun x => wrap (top + (x.2 + 1))) = List.range' (top + 1) stamps.length := by
  apply List.ext_getElem (by simp)
  intro i hi _
  simp only [List.length_map, List.length_zipIdx] at hi
  simp only [List.getElem_map, List.getElem_zipIdx, List.getElem_range']
  rw [wrap_of_lt (by omega)]
  omega

/-- The ids of appended floors: they differ in their stamps, whatever the numbers are. -/
theorem Series.drawn_floors (hclock : clock.IsPast Intent.maxQuantity) (building : String)
    (s : Stamps) (count : Nat) (number : Nat → Nat) :
    Series (NumberedFloor building (s.draw clock count).2.high)
      ((s.draw clock count).1.zipIdx.map fun x =>
        building ++ "-floor-" ++ toString (number x.2) ++ "-" ++ toString x.1) := by
  refine ⟨?_, fun id hid => ?_⟩
  -- Numbers can repeat when they wrap around, but stamps are drawn once.
  · have hfst : ((s.draw clock count).1.zipIdx.map Prod.fst).Nodup := by
      rw [List.zipIdx_map_fst]
      exact Stamps.nodup_draw hclock s count
    refine List.pairwise_map.2 ((List.pairwise_map.1 hfst).imp fun hne heq => ?_)
    exact hne (floorId_stamp_inj heq)
  · obtain ⟨x, hx, rfl⟩ := List.mem_map.1 hid
    have hmem := List.fst_mem_of_mem_zipIdx hx
    exact Or.inr ⟨_, _, (Stamps.mem_draw hclock hmem).2, rfl⟩

/-- Appended floors go on with the numbers and have new ids. -/
theorem Building.Sound.appendFloors (hclock : clock.IsPast Intent.maxQuantity) {b : Building}
    (h : b.Sound s.high) {count : Nat} (hfits : b.floors.length + count < wordLimit) :
    (b.appendFloors count clock s).1.Sound (b.appendFloors count clock s).2.high := by
  have hle := Stamps.high_le_draw hclock s count
  refine ⟨rfl, ?_, ?_, fun f hf => ?_⟩
  · simp only [Building.appendFloors, synced, floorNumbers, List.map_append, List.map_map,
      Function.comp_def, Floor.generateDefault, Floor.generate, List.length_append,
      List.length_map, List.length_zipIdx, Stamps.length_draw]
    rw [h.maxFloorNumber_eq, map_wrap_zipIdx (by simpa using hfits), Stamps.length_draw,
      ← floorNumbers, h.floorNumbers_eq, Nat.add_comm b.floors.length 1, List.range'_append_1]
  · have hadded := Series.drawn_floors hclock b.id s count fun i =>
      wrap (b.maxFloorNumber + (i + 1))
    simp only [Building.appendFloors, synced, List.map_append, List.map_map, Function.comp_def,
      Floor.generateDefault, Floor.generate]
    refine h.floorIds.append hadded (fun id hid => ?_) (fun _ => .mono hle) (fun _ hid => hid)
    obtain ⟨x, hx, rfl⟩ := List.mem_map.1 hid
    exact not_numberedFloor_of_lt (Stamps.mem_draw hclock (List.fst_mem_of_mem_zipIdx hx)).1
  · rcases List.mem_append.1 hf with hf | hf
    · exact (h.floors f hf).mono hle
    · obtain ⟨x, -, rfl⟩ := List.mem_map.1 hf
      exact .generateDefault _ _ _

end Floorplan
