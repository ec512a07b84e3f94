import Floorplan.Proofs.Intent.Words

set_option autoImplicit false

/-! # What holds whatever the clock does

The ids of floors and components need a clock that is past the counts that occur in ids. The ids of
buildings do not, because each of them is a stamp and nothing else; and neither do the numbers of the
floors. `Collection.Regular` is what is left of `Collection.Sound` without the clock. It is enough for
a line of text to have an outcome (`dispatch_regular`). -/

namespace Floorplan

variable {clock : Clock} {s s' : Stamps} {b b' b'' : Building}

/-! ## Floors counted from one -/

namespace Building

/-- The building reports its floors, which are numbered from one in their order. -/
structure Counted (b : Building) : Prop where
  totalFloors_eq : b.totalFloors = b.floors.length
  floorNumbers_eq : b.floorNumbers = List.range' 1 b.floors.length

namespace Counted

theorem nodup (h : b.Counted) : b.floorNumbers.Nodup := by
  rw [h.floorNumbers_eq]
  exact List.nodup_range'

theorem maxFloorNumber_eq (h : b.Counted) : b.maxFloorNumber = b.floors.length := by
  rw [maxFloorNumber, h.floorNumbers_eq, foldl_max_range']

theorem of_floorNumbers (h : b.Counted) (htotal : b'.totalFloors = b.totalFloors)
    (hnumbers : b'.floorNumbers = b.floorNumbers) : b'.Counted := by
  have hlength := length_floors_eq hnumbers
  refine ⟨?_, ?_⟩
  · rw [htotal, hlength, h.totalFloors_eq]
  · rw [hnumbers, hlength, h.floorNumbers_eq]

theorem generate (id name : String) (floors restrooms corridors lifts : Nat) :
    (Building.generate id name floors restrooms corridors lifts).Counted := by
  refine ⟨by simp [Building.generate], ?_⟩
  simp only [floorNumbers, Building.generate, List.map_map, Function.comp_def, Floor.generate,
    List.length_map, List.length_range]
  rw [List.range'_eq_map_range]
  exact List.map_congr_left fun i _ => Nat.add_comm i 1

/-- Floors that are added go on with the numbers, as long as a word can count them. -/
theorem appendFloors (h : b.Counted) {count : Nat} (hfits : b.floors.length + count < wordLimit) :
    (b.appendFloors count clock s).1.Counted := by
  refine ⟨rfl, ?_⟩
  simp only [Building.appendFloors, synced, floorNumbers, List.map_append, List.map_map,
    Function.comp_def, Floor.generateDefault, Floor.generate, List.length_append,
    List.length_map, List.length_zipIdx, Stamps.length_draw]
  rw [h.maxFloorNumber_eq, map_wrap_zipIdx (by simpa using hfits), Stamps.length_draw,
    ← floorNumbers, h.floorNumbers_eq, Nat.add_comm b.floors.length 1, List.range'_append_1]

theorem renumber (b : Building) (floors : List Floor) :
    (synced { b with floors := Floorplan.renumber floors }).Counted := by
  refine ⟨rfl, ?_⟩
  simp only [floorNumbers, synced, map_number_renumber, length_renumber]

end Counted

end Building

/-! ## Intents -/

namespace Intent

theorem counted_growFloors {count : Option Nat} {said : List String} (hb : b.Counted)
    (h : growFloors b count clock s = ((b', said), s')) (hfits : b'.floors.length < wordLimit) :
    b'.Counted := by
  unfold growFloors at h
  split at h
  · cases h
    exact hb
  · rename_i n _
    cases h
    exact hb.appendFloors (b.length_appendFloors n clock s ▸ hfits)

/-- An intent leaves the numbers of the floors as they are, or goes on with them, or numbers anew. -/
theorem Turns.counted {intent : Intent} {reply : Reply} (h : Turns clock b s intent b' reply s')
    (hfits : b'.floors.length < wordLimit) (hb : b.Counted) : b'.Counted := by
  cases h with
  | nameFloors names floors hfloors =>
    subst hfloors
    refine hb.of_floorNumbers rfl (map_renamePositional ?_ b.floors names)
    exact fun _ _ => rfl
  | nameComponents kind floor names hf =>
    refine hb.of_floorNumbers rfl (b.floorNumbers_mapNumbered fun _ _ => ?_)
    rw [number_renamedOn]
    exact Building.number_eq_of_floorByNumber? hf
  | nameComponent kind floor index name =>
    refine hb.of_floorNumbers rfl (b.floorNumbers_mapNumbered fun f hf => ?_)
    rw [number_renamedAt]
    exact hf
  | nameFloor floor name =>
    exact hb.of_floorNumbers rfl (b.floorNumbers_mapNumbered fun _ hf => hf)
  | nameBuilding name => exact hb.of_floorNumbers rfl rfl
  | addFloors count => exact hb.appendFloors (b.length_appendFloors count clock s ▸ hfits)
  | addEverywhere kind count =>
    exact hb.of_floorNumbers rfl (map_number_appendToEach kind count clock b.floors s)
  | @addOnFloor f kind count floor hf =>
    refine hb.of_floorNumbers rfl (b.floorNumbers_mapNumbered fun _ _ => ?_)
    rw [f.number_appendComponents]
    exact Building.number_eq_of_floorByNumber? hf
  | @addMultiple taller _ _ _ _ _ _ _ _ counts hfloors hrestrooms hcorridors =>
    obtain ⟨-, htotal, hnumbers⟩ := growComponents_numbers hrestrooms
    obtain ⟨-, htotal', hnumbers'⟩ := growComponents_numbers hcorridors
    have hlength := Building.length_floors_eq (hnumbers'.trans hnumbers)
    have htaller := counted_growFloors hb hfloors (hlength ▸ hfits)
    exact (htaller.of_floorNumbers htotal hnumbers).of_floorNumbers htotal' hnumbers'
  | removeFloors count kept => exact .renumber b kept

end Intent

/-! ## Collections -/

/-- The ids of the buildings are distinct stamps up to a bound, the active building is one of them, and
their floors are counted from one. -/
structure Collection.Regular (bound : Nat) (c : Collection) : Prop where
  buildingIds : Series (Numbered "building-" bound) (c.buildings.map (·.id))
  active : ∀ id, c.activeId = some id → ∃ b ∈ c.buildings, b.id = id
  buildings : ∀ b ∈ c.buildings, b.Counted

namespace Collection.Regular

variable {c : Collection} {m n : Nat}

theorem empty (bound : Nat) : Collection.empty.Regular bound :=
  ⟨.nil, by simp [Collection.empty], by simp [Collection.empty]⟩

theorem mono (hmn : m ≤ n) (h : c.Regular m) : c.Regular n :=
  ⟨h.buildingIds.mono fun _ => .mono hmn, h.active, h.buildings⟩

theorem withActive (h : c.Regular n) (hb : b ∈ c.buildings) :
    Collection.Regular n { c with activeId := some b.id } :=
  ⟨h.buildingIds, fun _ hid => ⟨b, hb, Option.some.inj hid⟩, h.buildings⟩

theorem withBuilding (h : c.Regular n) (hb : b.Counted) : (c.withBuilding b).Regular n := by
  have hids := c.map_id_withBuilding b
  refine ⟨?_, fun id hid => ?_, fun x hx => ?_⟩
  · rw [hids]
    exact h.buildingIds
  · obtain ⟨x, hx, rfl⟩ := h.active id hid
    have hmem : x.id ∈ (c.withBuilding b).buildings.map (·.id) := by
      rw [hids]
      exact List.mem_map_of_mem hx
    simpa using hmem
  · obtain ⟨y, hy, rfl⟩ := List.mem_map.1 hx
    split
    · exact hb
    · exact h.buildings y hy

/-- A stamp that is drawn is greater than all before, so its id is new. -/
theorem withNewActive (h : c.Regular s.last) (hid : b.id = "building-" ++ toString (s.next clock).1)
    (hb : b.Counted) : (c.withNewActive b).Regular (s.next clock).2.last := by
  have hle := s.last_le_next clock
  have hdrawn : Series (Numbered "building-" (s.next clock).2.last) [b.id] :=
    ⟨List.nodup_singleton _, fun id hmem => ⟨_, le_rfl, (List.mem_singleton.1 hmem).trans hid⟩⟩
  have hnew : ∀ id ∈ [b.id], ¬ Numbered "building-" s.last id := by
    intro id hmem
    rw [List.mem_singleton.1 hmem, hid]
    exact not_numbered_of_lt (s.last_lt_next clock)
  refine ⟨?_, fun id hactive => ?_, fun x hx => ?_⟩
  · simp only [Collection.withNewActive, List.map_append, List.map_cons, List.map_nil]
    exact h.buildingIds.append hdrawn hnew (fun _ => .mono hle) fun _ => id
  · exact ⟨b, by simp [Collection.withNewActive], Option.some.inj hactive⟩
  · rcases List.mem_append.1 hx with hx | hx
    · exact h.buildings x hx
    · rw [List.mem_singleton.1 hx]
      exact hb

end Collection.Regular

variable {c : Collection}

theorem Intent.Effect.regular {intent : Intent} {o : Outcome}
    (h : Effect c clock s intent o s') (hc : c.Regular s.last)
    (hfits : (o.collection.getD c).Fits) : (o.collection.getD c).Regular s'.last := by
  cases h with
  | answered => exact hc
  | switched hname => exact hc.withActive (List.mem_of_find?_eq_some hname)
  | created hnew hquantity hb =>
    subst hb
    exact hc.withNewActive rfl (.generate ..)
  | turned hb hturns =>
    have hmem := Collection.mem_withBuilding hb hturns.id_eq
    have hactive := hc.buildings _ (Collection.mem_of_active? hb)
    exact (hc.withBuilding (hturns.counted (hfits _ hmem) hactive)).mono hturns.evolves.last_le

/-- **A line of text has an outcome**, which is regular again if its floors can be counted. -/
theorem dispatch_regular (hc : c.Regular s.last) (text : String) (clock : Clock) :
    ∃ o s', dispatch c text clock s = .ok (o, s') ∧
      ((o.collection.getD c).Fits → (o.collection.getD c).Regular s'.last) := by
  unfold dispatch
  split
  · rename_i intent _
    have hnodup : ∀ b, c.active? = some b → b.floorNumbers.Nodup := fun b hb =>
      (hc.buildings b (Collection.mem_of_active? hb)).nodup
    obtain ⟨o, s', h⟩ := Intent.apply_ok hnodup intent clock s
    exact ⟨o, s', h, (Intent.apply_effect h).regular hc⟩
  · exact ⟨_, _, rfl, fun _ => hc⟩

end Floorplan
