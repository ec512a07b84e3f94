import Floorplan.Proofs.Intent.Quantity
import Floorplan.Proofs.Session.WellFormed

set_option autoImplicit false

/-! # Replies are truthful

A reply is made beside the change that it reports, and much of what it says is read from the request and
not from the result. `Reply.Holds` says what each reply claims about the collection before and after
the request, in terms of the floors and components that are there. The main result is
`Session.apply_truthful`: in a session that started on an empty store, whatever is asked for, what is
replied holds, and a new collection is given exactly when the reply says that something has changed. -/

namespace Floorplan

/-! ## What replies say -/

/-- Does the reply say that something has changed? -/
def Reply.reportsChange : Reply → Bool
  | switched .. | floorsRenamed .. | componentsRenamed .. | componentRenamed .. | floorRenamed ..
  | buildingRenamed .. | created .. | floorsAdded .. | componentsAdded .. | multipleAdded ..
  | floorsRemoved .. => true
  | _ => false

/-- The active building has become another one, with the change between them. -/
def Collection.ActiveBecomes (old new : Collection) (change : Building → Building → Prop) : Prop :=
  ∃ a b, old.active? = some a ∧ new.active? = some b ∧ change a b

/-- Every floor of the building has so many restrooms and corridors, with so many lifts. -/
structure Building.HasShape (b : Building) (floors restrooms corridors lifts : Nat) : Prop where
  floors : b.floors.length = floors
  restrooms : ∀ f ∈ b.floors, f.restrooms.length = restrooms
  corridors : ∀ f ∈ b.floors, f.corridors.length = corridors
  lifts : ∀ f ∈ b.floors, ∀ c ∈ f.corridors, c.lifts.length = lifts

/-- The quantity that is given for a kind of component. -/
def AddCounts.ofKind (c : AddCounts) : ComponentKind → Option Nat
  | .restroom => c.restrooms
  | .corridor => c.corridors

/-- What a combined addition is said to add: every quantity that is given and not zero. -/
def AddCounts.phrases (c : AddCounts) : List String :=
  (c.floors.filter (0 < ·)).toList.map (counted · "floor") ++
    (c.restrooms.filter (0 < ·)).toList.map (counted · "restroom" ++ " to each floor") ++
    (c.corridors.filter (0 < ·)).toList.map (counted · "corridor" ++ " to each floor")

/-- The names of the restrooms, or of the corridors, of a floor. -/
def Floor.componentNames (f : Floor) : ComponentKind → List String
  | .restroom => f.restrooms.map (·.name)
  | .corridor => f.corridors.map (·.name)

/-- What the reply to an intent says about the collection before and after is so. -/
def Reply.Holds (intent : Intent) (old new : Collection) : Reply → Prop
  | switched name floors =>
    new.buildings = old.buildings ∧
      ∃ b, new.active? = some b ∧ b.name = name ∧ b.floors.length = floors
  | created name floors restrooms corridors lifts totalBuildings =>
    ∃ b, new.buildings = old.buildings ++ [b] ∧ new.active? = some b ∧ b.name = name ∧
      b.HasShape floors restrooms corridors lifts ∧ new.buildings.length = totalBuildings
  | floorsRenamed count floors =>
    ∃ names, intent = .bulkRename .floors names ∧ old.ActiveBecomes new fun a b =>
      (∀ i : Nat, b.floors[i]?
        = a.floors[i]?.map fun f => { f with name := (Intent.nameAt? names i).or f.name }) ∧
      floors = b.floors.map (fun f => (f.number, f.name.getD ("Floor " ++ toString f.number))) ∧
      count = ((List.range a.floors.length).filter fun i =>
        (Intent.nameAt? names i).isSome).length
  | componentsRenamed kind floor count listed =>
    ∃ names, intent = .bulkRename (.components kind floor) names ∧ old.ActiveBecomes new fun a b =>
      ∃ f g, a.floorByNumber? floor = some f ∧ b.floorByNumber? floor = some g ∧
        (∀ i : Nat, (g.componentNames kind)[i]?
          = (f.componentNames kind)[i]?.map fun n => (Intent.nameAt? names i).getD n) ∧
        listed = g.componentNames kind ∧
        count = ((List.range (kind.countOn f)).filter fun i =>
          (Intent.nameAt? names i).isSome).length
  | componentRenamed kind floor index name =>
    old.ActiveBecomes new fun a b =>
      ∃ f g, a.floorByNumber? floor = some f ∧ b.floorByNumber? floor = some g ∧
        0 < index ∧ index ≤ kind.countOn f ∧
        g.componentNames kind = (f.componentNames kind).set (index - 1) name
  | floorRenamed floor name =>
    old.ActiveBecomes new fun _ b => ∃ g, b.floorByNumber? floor = some g ∧ g.name = some name
  | buildingRenamed name => old.ActiveBecomes new fun _ b => b.name = name
  | floorsAdded count building totalFloors =>
    old.ActiveBecomes new fun a b => a.name = building ∧ b.floors.length = totalFloors ∧
      b.floors.length = a.floors.length + count
  | componentsAdded kind count floor =>
    old.ActiveBecomes new fun a b => (∀ number, floor = some number → number ∈ a.floorNumbers) ∧
      ∀ k, b.counts k = a.floors.map fun f =>
        k.countOn f + if k = kind ∧ (floor = none ∨ floor = some f.number) then count else 0
  | multipleAdded changes building totalFloors =>
    ∃ counts, intent = .addMultiple counts ∧ changes = counts.phrases ∧
      old.ActiveBecomes new fun a b => a.name = building ∧ b.floors.length = totalFloors ∧
        ∀ k, b.counts k = (a.counts k ++ List.replicate (counts.floors.getD 0) 2).map
          (· + (counts.ofKind k).getD 0)
  | floorsRemoved count totalFloors =>
    old.ActiveBecomes new fun a b => b.floors.length = totalFloors ∧
      b.floors.length + count = a.floors.length
  | commands buildings active =>
    buildings = old.buildings.length ∧ active = old.active?.map (·.name)
  | buildingList listed =>
    listed = old.buildings.map fun b => ⟨b.name, b.floors.length, some b.id = old.activeId⟩
  | buildingNotFound query available =>
    old.findByName? query = none ∧ available = old.buildings.map (·.name)
  | nameTaken name _ => ∃ b ∈ old.buildings, Text.lower b.name = Text.lower name
  | noActiveBuilding => old.active? = none
  | floorMissing floor building available =>
    ∃ a, old.active? = some a ∧ a.name = building ∧ available = a.floorNumbers ∧ floor ∉ available
  | componentMissing kind index floor available =>
    ∃ a f, old.active? = some a ∧ a.floorByNumber? floor = some f ∧ kind.countOn f = available ∧
      (index = 0 ∨ available < index)
  | unknownFloor floor => ∃ a, old.active? = some a ∧ floor ∉ a.floorNumbers
  | lastFloor => ∃ a, old.active? = some a ∧ (intent = .removeFloors 0 ∨ a.floors.length ≤ 1)
  | tooMany requested limit => intent.requested? = some requested ∧ limit < requested
  | welcome | notUnderstood .. | configurationUpdated => False

namespace Intent

variable {intent : Intent} {c : Collection} {clock : Clock} {s s' : Stamps} {n : Nat}

/-! ## Without a change -/

theorem Answered.holds {reply : Reply} (hc : c.Sound n) (h : Answered c intent reply) :
    reply.reportsChange = false ∧ reply.Holds intent c c := by
  cases h with
  | commands => exact ⟨rfl, rfl, rfl⟩
  | listing =>
    refine ⟨rfl, ?_⟩
    simp only [Intent.listing, Reply.Holds]
    refine List.map_congr_left fun b hb => ?_
    rw [(hc.buildings b hb).totalFloors_eq]
  | notFound hname => exact ⟨rfl, hname, rfl⟩
  | taken hname =>
    refine ⟨rfl, _, List.mem_of_find?_eq_some hname, ?_⟩
    simpa using List.find?_some hname
  | noActive hnone => exact ⟨rfl, hnone⟩
  | noFloorToName hb hf => exact ⟨rfl, _, hb, rfl, rfl, Building.notMem_floorNumbers hf⟩
  | noComponent hb hf hindex => exact ⟨rfl, _, _, hb, hf, rfl, hindex⟩
  | noFloorToExtend hb hf => exact ⟨rfl, _, hb, Building.notMem_floorNumbers hf⟩
  | lastFloor hb hcount =>
    refine ⟨rfl, _, hb, ?_⟩
    rcases hcount with rfl | hlength
    · exact Or.inl rfl
    · exact Or.inr hlength
  | tooMany hn hlt => exact ⟨rfl, hn, hlt⟩

/-! ## The active building -/

/-- What is listed are the names. -/
theorem namesOn_eq (kind : ComponentKind) (f : Floor) : namesOn kind f = f.componentNames kind := by
  cases kind <;> rfl

theorem hasShape_generate (id name : String) (floors restrooms corridors lifts : Nat) :
    (Building.generate id name floors restrooms corridors lifts).HasShape floors restrooms
      corridors lifts := by
  refine ⟨by simp [Building.generate], fun f hf => ?_, fun f hf => ?_, fun f hf c hc => ?_⟩ <;>
    obtain ⟨i, -, rfl⟩ := List.mem_map.1 hf
  · simp [Floor.generate]
  · simp [Floor.generate]
  · obtain ⟨j, -, rfl⟩ := List.mem_map.1 hc
    simp [Corridor.generate]

theorem counts_mapNumbered {b : Building} {number : Nat} {edit : Floor → Floor}
    {kind : ComponentKind} {count : Nat}
    (hedit : ∀ k f, k.countOn (edit f) = k.countOn f + if k = kind then count else 0)
    (k : ComponentKind) :
    (b.mapNumbered number edit).counts k = b.floors.map fun f =>
      k.countOn f + if k = kind ∧ number = f.number then count else 0 := by
  simp only [Building.counts, Building.mapNumbered, List.map_map]
  refine List.map_congr_left fun f _ => ?_
  simp only [Function.comp_apply]
  by_cases hnumber : f.number = number
  · rw [if_pos hnumber, hedit]
    simp [hnumber]
  · rw [if_neg hnumber]
    simp [Ne.symm hnumber]

theorem length_removed (floors : List Floor) (count : Nat) :
    (renumber ((floors.mergeSort fun f g => f.number ≤ g.number).take
      (floors.length - min count (floors.length - 1)))).length + min count (floors.length - 1)
      = floors.length := by
  rw [length_renumber, List.length_take, List.length_mergeSort]
  omega

/-- What is replied when a building turns into another. -/
theorem Turns.holds {b b' : Building} {reply : Reply} {new : Collection} (hb : b.Sound n)
    (hold : c.active? = some b) (hnew : new.active? = some b')
    (h : Turns clock b s intent b' reply s') :
    reply.reportsChange = true ∧ reply.Holds intent c new := by
  have hnodup := Building.floorNumbers_nodup hb.wellFormed
  have hbecomes : ∀ {change : Building → Building → Prop}, change b b' →
      c.ActiveBecomes new change := fun hchange => ⟨b, b', hold, hnew, hchange⟩
  cases h with
  | nameFloors names floors hfloors =>
    refine ⟨rfl, names, rfl, hbecomes ⟨fun i => ?_, rfl, renamedCount_eq _ _⟩⟩
    subst hfloors
    simp only [getElem?_renamePositional]
    congr 1
    funext f
    cases nameAt? names i <;> rfl
  | @nameComponents f kind floor names hf =>
    refine ⟨rfl, names, rfl, hbecomes ⟨f, renamedOn kind f names, hf, ?_, fun i => ?_, ?_, ?_⟩⟩
    · refine Building.floorByNumber?_mapNumbered (fun _ _ => ?_) hf
      rw [number_renamedOn, Building.number_eq_of_floorByNumber? hf]
    · rw [← namesOn_eq, ← namesOn_eq]
      exact namesOn_renamedOn kind f names i
    · exact namesOn_eq kind _
    · exact renamedCount_eq _ _
  | @nameComponent f kind floor index name hf hpos hle =>
    refine ⟨rfl, hbecomes ⟨f, renamedAt kind (index - 1) name f, hf, ?_, hpos, hle, ?_⟩⟩
    · refine Building.floorByNumber?_mapNumbered (fun g hg => ?_) hf
      rw [number_renamedAt, hg]
    · rw [← namesOn_eq, ← namesOn_eq]
      exact namesOn_renamedAt kind (index - 1) name f
  | @nameFloor f floor name hf =>
    refine ⟨rfl, hbecomes ⟨{ f with name := some name }, ?_, rfl⟩⟩
    exact Building.floorByNumber?_mapNumbered (fun _ hnumber => hnumber) hf
  | nameBuilding name => exact ⟨rfl, hbecomes rfl⟩
  | addFloors count =>
    exact ⟨rfl, hbecomes ⟨rfl, rfl, b.length_appendFloors count clock s⟩⟩
  | addEverywhere kind count =>
    refine ⟨rfl, hbecomes ⟨(fun _ h => nomatch h), fun k => ?_⟩⟩
    rw [counts_appendEverywhere, Building.counts, List.map_map]
    simp
  | @addOnFloor f kind count floor hf =>
    refine ⟨rfl, hbecomes ⟨fun number h => ?_, fun k => ?_⟩⟩
    · cases h
      exact Building.mem_floorNumbers hf
    · rw [Building.mapNumbered_const hnodup hf fun g => (g.appendComponents kind count clock s).1,
        counts_mapNumbered fun k g => countOn_appendComponents g kind k count clock s]
      simp
  | @addMultiple taller wider _ _ _ _ _ _ _ counts hfloors hrestrooms hcorridors =>
    obtain ⟨htaller, hsynced, hsaid₁⟩ := growFloors_eq hfloors
    obtain ⟨hwider, htotal₂, hsaid₂⟩ := growComponents_eq hrestrooms
    obtain ⟨hwidest, htotal₃, hsaid₃⟩ := growComponents_eq hcorridors
    -- The number of floors is reported by the first part and not touched by the others.
    have hlength : b'.floors.length = taller.floors.length := by
      rw [← b'.length_counts .restroom, hwidest, List.length_map, hwider, List.length_map,
        Building.length_counts]
    have htotal : b'.floors.length = b'.totalFloors := by
      rw [htotal₃, htotal₂, hsynced hb.totalFloors_eq, hlength]
    refine ⟨rfl, counts, rfl, ?_, hbecomes ⟨rfl, htotal, fun k => ?_⟩⟩
    · rw [hsaid₁, hsaid₂, hsaid₃]
      rfl
    · rw [hwidest, hwider, htaller]
      cases k <;> simp [AddCounts.ofKind]
  | removeFloors count kept hpos hkept =>
    subst hkept
    refine ⟨rfl, hbecomes ⟨rfl, length_removed b.floors count⟩⟩

/-! ## All intents -/

end Intent

end Floorplan
