import Floorplan.Proofs.Intent.Plan

set_option autoImplicit false

/-! # Collections that differ only in their ids

Ids are where the clock gets to, and they are what the active building is found and replaced by. As long
as they are distinct in each of two collections that have the same plan, every intent leads to the same
plan again and to the same reply, whatever the clock and the stamps are on either side
(`Intent.apply_samePlan`, `dispatch_samePlan`). -/

namespace Floorplan

namespace Intent

variable {b b' : Building}

/-! ## Collections -/

/-- The collections differ only in the ids, which are distinct in each of them. -/
structure SamePlan (c c' : Collection) : Prop where
  plan_eq : c.plan = c'.plan
  ids : (c.buildings.map (·.id)).Nodup
  ids' : (c'.buildings.map (·.id)).Nodup

/-- What is to be seen of an outcome: the plan of the collection after it, and the reply. -/
def shows (c : Collection) (o : Outcome) : Plan × Reply := ((o.collection.getD c).plan, o.reply)

/-- The list of the buildings says which one is active, and not what its id is. -/
theorem listing_eq {c : Collection} (hids : (c.buildings.map (·.id)).Nodup) :
    listing c = .buildingList (c.plan.buildings.mapIdx fun i b =>
      ⟨b.name, b.totalFloors, c.plan.active = some i⟩) := by
  unfold listing
  refine congrArg Reply.buildingList (List.ext_getElem (by simp [Collection.plan]) fun i hi _ => ?_)
  have hlt : i < c.buildings.length := by simpa using hi
  have hactive : some c.buildings[i].id = c.activeId ↔ c.plan.active = some i :=
    eq_comm.trans (Collection.activeIndex?_eq_some_iff hids hlt).symm
  simp only [List.getElem_map, List.getElem_mapIdx, Collection.plan, ListedBuilding.mk.injEq]
  exact ⟨rfl, rfl, decide_eq_decide.2 hactive⟩

theorem id_nameComponent {kind : ComponentKind} {floor index : Nat} {name : String}
    {result : Option Building × Reply} (h : nameComponent b kind floor index name = .ok result) :
    ∀ x ∈ result.1, x.id = b.id := by
  intro x hx
  cases hf : b.floorByNumber? floor with
  | none =>
    simp only [nameComponent, hf] at h
    cases h
    cases hx
  | some f =>
    by_cases hindex : index = 0 ∨ kind.countOn f < index
    · simp only [nameComponent, hf, if_pos hindex] at h
      cases h
      cases hx
    · rw [nameComponent_eq hf (by omega) (by omega)] at h
      split at h <;> cases h
      cases hx
      rfl

namespace SamePlan

variable {c c' : Collection}

theorem active? (h : SamePlan c c') :
    c.active?.map Building.plan = c'.active?.map Building.plan := by
  rw [c.plan_active?, c'.plan_active?, h.plan_eq]

theorem names (h : SamePlan c c') : c.names = c'.names := by
  rw [c.names_eq, c'.names_eq, h.plan_eq]

theorem length_eq (h : SamePlan c c') : c.buildings.length = c'.buildings.length := by
  simpa [Collection.plan] using congrArg (·.buildings.length) h.plan_eq

theorem activeName (h : SamePlan c c') : c.active?.map (·.name) = c'.active?.map (·.name) := by
  have hname := congrArg (Option.map Building.name) h.active?
  simpa [Function.comp_def] using hname

theorem findByName? (h : SamePlan c c') (name : String) :
    (c.findByName? name).map Building.plan = (c'.findByName? name).map Building.plan := by
  rw [c.plan_findByName?, c'.plan_findByName?, h.plan_eq]

theorem unchanged (h : SamePlan c c') (reply : Reply) :
    shows c (unchanged reply) = shows c' (unchanged reply) := by
  simp [shows, Intent.unchanged, h.plan_eq]

/-- Edits of the active buildings come to the same if they come to the same on these. -/
theorem edited (h : SamePlan c c') (hb : c.active? = some b) (hb' : c'.active? = some b')
    {result result' : Option Building × Reply} (hresult : outline result = outline result')
    (hid : ∀ x ∈ result.1, x.id = b.id) (hid' : ∀ x ∈ result'.1, x.id = b'.id) :
    shows c ⟨result.1.map c.withBuilding, result.2⟩
      = shows c' ⟨result'.1.map c'.withBuilding, result'.2⟩ := by
  obtain ⟨hchange, hreply⟩ := Prod.ext_iff.1 hresult
  obtain ⟨i, -, hi, -⟩ := Collection.exists_activeIndex? hb
  have hi' : c'.activeIndex? = some i := (congrArg Plan.active h.plan_eq).symm.trans hi
  simp only [outline] at hchange hreply
  rw [shows, shows, hreply]
  cases hx : result.1 with
  | none =>
    cases hx' : result'.1 with
    | none => simp [h.plan_eq]
    | some x' => simp [hx, hx'] at hchange
  | some x =>
    cases hx' : result'.1 with
    | none => simp [hx, hx'] at hchange
    | some x' =>
      have hplan : x.plan = x'.plan := by simpa [hx, hx'] using hchange
      simp only [Option.map_some, Option.getD_some, Prod.mk.injEq, and_true]
      rw [Collection.plan_withBuilding h.ids hb (hid x hx) hi,
        Collection.plan_withBuilding h.ids' hb' (hid' x' hx') hi', h.plan_eq, hplan]

/-- The active buildings are there both or not at all, and have the same plan. -/
theorem active_cases (h : SamePlan c c') :
    (c.active? = none ∧ c'.active? = none) ∨
      ∃ b b', c.active? = some b ∧ c'.active? = some b' ∧ b.plan = b'.plan := by
  have hactive := h.active?
  cases hb : c.active? with
  | none =>
    rw [hb] at hactive
    exact Or.inl ⟨rfl, by simpa using hactive.symm⟩
  | some b =>
    rw [hb] at hactive
    obtain ⟨b', hb', hplan⟩ := Option.map_eq_some_iff.1 hactive.symm
    exact Or.inr ⟨b, b', rfl, hb', hplan.symm⟩

theorem onActive (h : SamePlan c c') {edit edit' plain : Building → Option Building × Reply}
    (hedit : Blind edit plain) (hedit' : Blind edit' plain) :
    shows c (onActive c edit) = shows c' (onActive c' edit') := by
  rcases h.active_cases with ⟨hnone, hnone'⟩ | ⟨b, b', hb, hb', hplan⟩
  · simp only [Intent.onActive, hnone, hnone']
    exact h.unchanged _
  · simp only [Intent.onActive, hb, hb']
    refine h.edited hb hb' ?_ (hedit.id_eq b) (hedit'.id_eq b')
    rw [hedit.outline_eq, hedit'.outline_eq, hplan]

theorem onActiveStamped (h : SamePlan c c') {clock clock' : Clock} {s s' : Stamps}
    {edit : Building → Clock → Stamps → (Option Building × Reply) × Stamps}
    (hedit : ∀ clock s, Blind (fun b => (edit b clock s).1) fun b => (edit b (.still 0) {}).1) :
    shows c (onActiveStamped c s fun b s => edit b clock s).1
      = shows c' (onActiveStamped c' s' fun b s => edit b clock' s).1 := by
  rcases h.active_cases with ⟨hnone, hnone'⟩ | ⟨b, b', hb, hb', hplan⟩
  · simp only [Intent.onActiveStamped, hnone, hnone']
    exact h.unchanged _
  · simp only [Intent.onActiveStamped, hb, hb']
    refine h.edited hb hb' ?_ ((hedit clock s).id_eq b) ((hedit clock' s').id_eq b')
    rw [(hedit clock s).outline_eq, (hedit clock' s').outline_eq, hplan]

/-- Naming a component has an outcome in both or in neither. -/
theorem nameComponent (h : SamePlan c c') (kind : ComponentKind) (floor index : Nat) (name : String)
    {clock clock' : Clock} (s s' : Stamps) :
    ((renameComponent kind floor index name).carryOut c clock s).map (fun r => shows c r.1)
      = ((renameComponent kind floor index name).carryOut c' clock' s').map fun r =>
          shows c' r.1 := by
  rcases h.active_cases with ⟨hnone, hnone'⟩ | ⟨b, b', hb, hb', hplan⟩
  · simp only [carryOut, onActiveChecked, hnone, hnone', Except.map]
    rw [h.unchanged]
  · have hresult := (outline_nameComponent b kind floor index name).trans
      ((congrArg (fun x => (Intent.nameComponent x kind floor index name).map outline) hplan).trans
        (outline_nameComponent b' kind floor index name).symm)
    simp only [carryOut, onActiveChecked, hb, hb']
    cases hn : Intent.nameComponent b kind floor index name with
    | error fault =>
      cases hn' : Intent.nameComponent b' kind floor index name with
      | error fault' =>
        rw [hn, hn'] at hresult
        cases hresult
        rfl
      | ok result' => simp [hn, hn', Except.map] at hresult
    | ok result =>
      cases hn' : Intent.nameComponent b' kind floor index name with
      | error fault' => simp [hn, hn', Except.map] at hresult
      | ok result' =>
        rw [hn, hn'] at hresult
        have hedited := h.edited hb hb' (Except.ok.inj hresult) (id_nameComponent hn)
          (id_nameComponent hn')
        simp only [bind, Except.bind, pure, Except.pure, Except.map]
        rw [hedited]

theorem listing (h : SamePlan c c') : listing c = listing c' := by
  rw [listing_eq h.ids, listing_eq h.ids', h.plan_eq]

theorem switchTo (h : SamePlan c c') (name : String) :
    shows c (switchTo c name) = shows c' (switchTo c' name) := by
  have hfound := h.findByName? name
  unfold Intent.switchTo
  cases hb : c.findByName? name with
  | none =>
    cases hb' : c'.findByName? name with
    | none =>
      simp only [h.names]
      exact h.unchanged _
    | some b' => simp [hb, hb'] at hfound
  | some b =>
    cases hb' : c'.findByName? name with
    | none => simp [hb, hb'] at hfound
    | some b' =>
      have hplan : b.plan = b'.plan := by simpa [hb, hb'] using hfound
      have hname : b.name = b'.name := by simpa using congrArg Building.name hplan
      have htotal : b.totalFloors = b'.totalFloors := by
        simpa using congrArg Building.totalFloors hplan
      simp only [shows, Option.getD_some, Prod.mk.injEq]
      rw [Collection.plan_withActive h.ids hb, Collection.plan_withActive h.ids' hb', h.plan_eq,
        hname, htotal]
      exact ⟨rfl, rfl⟩

/-- A building is made in both if its name is free in one of them; its id is new in each. -/
theorem create (h : SamePlan c c') (spec : BuildingSpec) {clock clock' : Clock} {s s' : Stamps}
    (hnew : "building-" ++ toString (s.next clock).1 ∉ c.buildings.map (·.id))
    (hnew' : "building-" ++ toString (s'.next clock').1 ∉ c'.buildings.map (·.id)) :
    shows c (create c spec clock s).1 = shows c' (create c' spec clock' s').1 := by
  have hfound := congrArg Option.isSome (h.findByName? (spec.name.getD defaultName))
  simp only [Option.isSome_map] at hfound
  simp only [Intent.create, hfound]
  split
  · exact h.unchanged _
  · simp only [shows, Option.getD_some, Prod.mk.injEq]
    rw [Collection.plan_withNewActive hnew, Collection.plan_withNewActive hnew', h.plan_eq,
      Building.plan_generate _ ("building-" ++ toString (s'.next clock').1)]
    refine ⟨rfl, ?_⟩
    simp [Collection.withNewActive, h.length_eq]

end SamePlan

/-! ## All intents -/

/-- Carrying out an intent comes to the same: to outcomes that show the same, or to the same fault. -/
theorem carryOut_samePlan {c c' : Collection} (h : SamePlan c c') (intent : Intent)
    {clock clock' : Clock} {s s' : Stamps}
    (hnew : "building-" ++ toString (s.next clock).1 ∉ c.buildings.map (·.id))
    (hnew' : "building-" ++ toString (s'.next clock').1 ∉ c'.buildings.map (·.id)) :
    (intent.carryOut c clock s).map (fun r => shows c r.1)
      = (intent.carryOut c' clock' s').map fun r => shows c' r.1 := by
  cases intent with
  | showCommands =>
    simp only [carryOut, Except.map, h.length_eq, h.activeName]
    rw [h.unchanged]
  | listBuildings =>
    simp only [carryOut, Except.map, h.listing]
    rw [h.unchanged]
  | switchBuilding name =>
    simp only [carryOut, Except.map]
    rw [h.switchTo]
  | createBuilding spec =>
    simp only [carryOut, Except.map]
    rw [h.create spec hnew hnew']
  | bulkRename target names =>
    cases target with
    | floors =>
      simp only [carryOut, Except.map]
      rw [h.onActive (blind_nameFloors names) (blind_nameFloors names)]
    | components kind floor =>
      simp only [carryOut, Except.map]
      rw [h.onActive (blind_nameComponents kind floor names) (blind_nameComponents kind floor names)]
  | renameComponent kind floor index name => exact h.nameComponent kind floor index name s s'
  | renameFloor floor name =>
    simp only [carryOut, Except.map]
    rw [h.onActive (blind_nameFloor floor name) (blind_nameFloor floor name)]
  | renameBuilding name =>
    simp only [carryOut, Except.map]
    rw [h.onActive (blind_nameBuilding name) (blind_nameBuilding name)]
  | addFloors count =>
    simp only [carryOut, Except.map]
    rw [h.onActiveStamped (blind_addFloorsTo count)]
  | addComponents kind count floor =>
    simp only [carryOut, Except.map]
    rw [h.onActiveStamped (blind_addComponentsTo kind count floor)]
  | addMultiple counts =>
    simp only [carryOut, Except.map]
    rw [h.onActiveStamped (blind_addMultipleTo counts)]
  | removeFloors count =>
    simp only [carryOut_removeFloors, Except.map]
    rw [h.onActive (blind_shortened count) (blind_shortened count)]

/-- **An intent leads to the same** in collections that differ only in their ids. -/
theorem apply_samePlan {c c' : Collection} (h : SamePlan c c') (intent : Intent)
    {clock clock' : Clock} {s s' : Stamps}
    (hnew : "building-" ++ toString (s.next clock).1 ∉ c.buildings.map (·.id))
    (hnew' : "building-" ++ toString (s'.next clock').1 ∉ c'.buildings.map (·.id)) :
    (intent.apply c clock s).map (fun r => shows c r.1)
      = (intent.apply c' clock' s').map fun r => shows c' r.1 := by
  unfold apply
  split
  · simp only [Except.map]
    rw [h.unchanged]
  · exact carryOut_samePlan h intent hnew hnew'

theorem SamePlan.forUnknown {c c' : Collection} (h : SamePlan c c') :
    Reply.forUnknown c = Reply.forUnknown c' := by
  have hempty : c.buildings.isEmpty = c'.buildings.isEmpty := by
    simpa [Collection.plan] using congrArg (·.buildings.isEmpty) h.plan_eq
  have hactive := congrArg (Option.map fun b => (b.name, b.totalFloors)) h.active?
  simp only [Option.map_map, Function.comp_def, Building.name_plan, Building.totalFloors_plan]
    at hactive
  simp only [Reply.forUnknown, hempty, hactive]

end Intent

/-- **A line of text leads to the same** in collections that differ only in their ids. -/
theorem dispatch_samePlan {c c' : Collection} (h : Intent.SamePlan c c') (text : String)
    {clock clock' : Clock} {s s' : Stamps}
    (hnew : "building-" ++ toString (s.next clock).1 ∉ c.buildings.map (·.id))
    (hnew' : "building-" ++ toString (s'.next clock').1 ∉ c'.buildings.map (·.id)) :
    (dispatch c text clock s).map (fun r => Intent.shows c r.1)
      = (dispatch c' text clock' s').map fun r => Intent.shows c' r.1 := by
  have hactive : c.active?.isSome = c'.active?.isSome := by
    simpa using congrArg Option.isSome h.active?
  unfold dispatch
  rw [hactive]
  split
  · exact Intent.apply_samePlan h _ hnew hnew'
  · simp only [Except.map, h.forUnknown]
    rw [h.unchanged]

end Floorplan
