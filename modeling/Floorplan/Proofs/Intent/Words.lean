import Floorplan.Proofs.Building.Words
import Floorplan.Proofs.Intent.Rename
import Floorplan.Proofs.Intent.WellFormed

set_option autoImplicit false

/-! # Intents keep numbers words

Whatever a line of text leads to, stamps are not taken back, and where the numbers in the collection
were words they are words again (`dispatch_inWords`). Unlike well-formedness this needs nothing of the
collection or of the clock. -/

namespace Floorplan

variable {clock : Clock} {s s' : Stamps}

namespace Intent

variable {b b' : Building}

/-! ## Components on every floor -/

theorem map_number_appendToEach (kind : ComponentKind) (count : Nat) (clock : Clock)
    (floors : List Floor) (s : Stamps) :
    (appendToEach kind count clock floors s).1.map (·.number) = floors.map (·.number) := by
  induction floors generalizing s with
  | nil => rfl
  | cons f floors ih =>
    simp only [appendToEach, List.map_cons, f.number_appendComponents, ih]

/-- Each floor that there is then comes from one that was there. -/
theorem exists_of_mem_appendToEach {kind : ComponentKind} {count : Nat} {floors : List Floor}
    {g : Floor} (hg : g ∈ (appendToEach kind count clock floors s).1) :
    ∃ f ∈ floors, ∃ s, g = (f.appendComponents kind count clock s).1 := by
  induction floors generalizing s with
  | nil => cases hg
  | cons f floors ih =>
    rcases List.mem_cons.1 hg with rfl | hg
    · exact ⟨f, List.mem_cons_self, s, rfl⟩
    · obtain ⟨f', hf', s', rfl⟩ := ih hg
      exact ⟨f', List.mem_cons_of_mem f hf', s', rfl⟩

theorem last_le_appendToEach (kind : ComponentKind) (count : Nat) (clock : Clock)
    (floors : List Floor) (s : Stamps) :
    s.last ≤ (appendToEach kind count clock floors s).2.last := by
  induction floors generalizing s with
  | nil => exact le_rfl
  | cons f floors ih => exact (f.last_le_appendComponents kind count clock s).trans (ih _)

theorem growComponents_numbers {kind : ComponentKind} {count : Option Nat} {said : List String}
    (h : growComponents b kind count clock s = ((b', said), s')) :
    s.last ≤ s'.last ∧ b'.totalFloors = b.totalFloors ∧ b'.floorNumbers = b.floorNumbers := by
  unfold growComponents at h
  split at h
  · cases h
    exact ⟨le_rfl, rfl, rfl⟩
  · rename_i n _
    cases h
    exact ⟨last_le_appendToEach kind n clock b.floors s, rfl,
      map_number_appendToEach kind n clock b.floors s⟩

theorem evolves_growFloors {count : Option Nat} {said : List String}
    (h : growFloors b count clock s = ((b', said), s')) : b.Evolves s b' s' := by
  unfold growFloors at h
  split at h
  · cases h
    exact .refl b s
  · rename_i n _
    cases h
    exact .appendFloors b n clock s

/-! ## All intents -/

/-- **What every intent does to numbers and stamps.** -/
theorem Turns.evolves {intent : Intent} {reply : Reply} (h : Turns clock b s intent b' reply s') :
    b.Evolves s b' s' := by
  cases h with
  | nameFloors names floors hfloors =>
    subst hfloors
    refine .of_floorNumbers le_rfl rfl (map_renamePositional ?_ b.floors names)
    exact fun _ _ => rfl
  | nameComponents kind floor names hf =>
    refine .of_floorNumbers le_rfl rfl (b.floorNumbers_mapNumbered fun _ _ => ?_)
    rw [number_renamedOn]
    exact Building.number_eq_of_floorByNumber? hf
  | nameComponent kind floor index name =>
    refine .of_floorNumbers le_rfl rfl (b.floorNumbers_mapNumbered fun f hf => ?_)
    rw [number_renamedAt]
    exact hf
  | nameFloor floor name =>
    exact .of_floorNumbers le_rfl rfl (b.floorNumbers_mapNumbered fun _ hf => hf)
  | nameBuilding name => exact .of_floorNumbers le_rfl rfl rfl
  | addFloors count => exact .appendFloors b count clock s
  | addEverywhere kind count =>
    exact .of_floorNumbers (last_le_appendToEach kind count clock b.floors s) rfl
      (map_number_appendToEach kind count clock b.floors s)
  | @addOnFloor f kind count floor hf =>
    refine .of_floorNumbers (f.last_le_appendComponents kind count clock s) rfl
      (b.floorNumbers_mapNumbered fun _ _ => ?_)
    rw [f.number_appendComponents]
    exact Building.number_eq_of_floorByNumber? hf
  | addMultiple counts hfloors hrestrooms hcorridors =>
    obtain ⟨hwider, htotal, hnumbers⟩ := growComponents_numbers hrestrooms
    obtain ⟨hwidest, htotal', hnumbers'⟩ := growComponents_numbers hcorridors
    have htaller := evolves_growFloors hfloors
    exact (htaller.then hwider htotal hnumbers).then hwidest htotal' hnumbers'
  | removeFloors count kept => exact .renumber b s kept

variable {c : Collection} {o : Outcome}

theorem Effect.last_le {intent : Intent} (h : Effect c clock s intent o s') : s.last ≤ s'.last := by
  cases h with
  | answered | switched => exact le_rfl
  | created => exact s.last_le_next clock
  | turned _ hturns => exact hturns.evolves.last_le

theorem inWords_generate (id name : String) {spec : BuildingSpec}
    (h : max (max spec.floors spec.restrooms) (max spec.corridors spec.lifts) ≤ maxQuantity) :
    (Building.generate id name spec.floors spec.restrooms spec.corridors spec.lifts).InWords := by
  have hfloors : spec.floors < wordLimit :=
    lt_of_le_of_lt (le_trans (le_trans (le_max_left ..) (le_max_left ..)) h) (by decide)
  refine ⟨hfloors, fun f hf => ?_⟩
  obtain ⟨i, hi, rfl⟩ := List.mem_map.1 hf
  exact lt_of_le_of_lt (List.mem_range.1 hi) hfloors

theorem Effect.inWords {intent : Intent} (h : Effect c clock s intent o s')
    (hfits : (o.collection.getD c).Fits) (hc : c.InWords) : (o.collection.getD c).InWords := by
  cases h with
  | answered => exact hc
  | switched => exact hc
  | created _ hquantity hb =>
    subst hb
    exact hc.withNewActive (inWords_generate _ _ hquantity)
  | turned hb hturns =>
    have hactive := hc _ (Collection.mem_of_active? hb)
    exact hc.withBuilding hfits fun hlength => hturns.evolves.inWords hlength hactive

end Intent

/-- Text that is taken for an intent or not takes no stamps back. -/
theorem dispatch_last_le {c : Collection} {text : String} {o : Outcome}
    (h : dispatch c text clock s = .ok (o, s')) : s.last ≤ s'.last := by
  unfold dispatch at h
  split at h
  · exact (Intent.apply_effect h).last_le
  · cases h
    exact le_rfl

/-- **What a line of text leads to has numbers that are words**, if its floors can be counted. -/
theorem dispatch_inWords {c : Collection} {text : String} {o : Outcome}
    (h : dispatch c text clock s = .ok (o, s')) (hfits : (o.collection.getD c).Fits)
    (hc : c.InWords) : (o.collection.getD c).InWords := by
  unfold dispatch at h
  split at h
  · exact (Intent.apply_effect h).inWords hfits hc
  · cases h
    exact hc

end Floorplan
