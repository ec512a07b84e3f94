import Floorplan.Proofs.Building.WellFormed
import Floorplan.Proofs.Intent.Fault

set_option autoImplicit false

/-! # What an intent leads to

Carrying out an intent has a handful of outcomes. The intent may be answered without a change, it may
make another building active or add one, or it may turn the active building into another, in one of
ten ways. `Answered`, `Turns` and `Effect` list them with the conditions under which they occur and
the replies that are given. Everything that is proved about intents is proved by cases on them, and
only the inversion lemmas of this module look into `Intent.apply`. -/

namespace Floorplan.Intent

variable {intent : Intent} {c : Collection} {clock : Clock} {s s' : Stamps} {b : Building}

/-! ## The outcomes -/

/-- The intent is answered, and nothing changes. -/
inductive Answered (c : Collection) : Intent → Reply → Prop
  | commands : Answered c .showCommands (.commands c.buildings.length (c.active?.map (·.name)))
  | listing : Answered c .listBuildings (listing c)
  | notFound {name : String} (h : c.findByName? name = none) :
      Answered c (.switchBuilding name) (.buildingNotFound name c.names)
  | taken {spec : BuildingSpec} {b : Building}
      (h : c.findByName? (spec.name.getD defaultName) = some b) :
      Answered c (.createBuilding spec) (.nameTaken (spec.name.getD defaultName) spec.floors)
  | noActive {intent : Intent} (h : c.active? = none) : Answered c intent .noActiveBuilding
  | noFloorToName {intent : Intent} {b : Building} {floor : Nat} (hb : c.active? = some b)
      (hf : b.floorByNumber? floor = none) : Answered c intent (floorMissing b floor)
  | noComponent {b : Building} {f : Floor} {kind : ComponentKind} {floor index : Nat}
      {name : String} (hb : c.active? = some b) (hf : b.floorByNumber? floor = some f)
      (hindex : index = 0 ∨ kind.countOn f < index) :
      Answered c (.renameComponent kind floor index name)
        (.componentMissing kind index floor (kind.countOn f))
  | noFloorToExtend {b : Building} {kind : ComponentKind} {count floor : Nat}
      (hb : c.active? = some b) (hf : b.floorByNumber? floor = none) :
      Answered c (.addComponents kind count (some floor)) (.unknownFloor floor)
  | lastFloor {b : Building} {count : Nat} (hb : c.active? = some b)
      (h : count = 0 ∨ b.floors.length ≤ 1) : Answered c (.removeFloors count) .lastFloor
  | tooMany {intent : Intent} {n : Nat} (hn : intent.requested? = some n) (h : maxQuantity < n) :
      Answered c intent (.tooMany n maxQuantity)

/-- The intent turns a building into another, which is replied. -/
inductive Turns (clock : Clock) (b : Building) (s : Stamps) :
    Intent → Building → Reply → Stamps → Prop
  | nameFloors (names : List String) (floors : List Floor)
      (hfloors : floors = renamePositional (fun f n => { f with name := some n }) b.floors names) :
      Turns clock b s (.bulkRename .floors names) { b with floors }
        (.floorsRenamed (renamedCount b.floors.length names)
          (floors.map fun f => (f.number, f.displayName))) s
  | nameComponents {f : Floor} (kind : ComponentKind) (floor : Nat) (names : List String)
      (hf : b.floorByNumber? floor = some f) :
      Turns clock b s (.bulkRename (.components kind floor) names)
        (b.mapNumbered floor fun _ => renamedOn kind f names)
        (.componentsRenamed kind floor (renamedCount (kind.countOn f) names)
          (namesOn kind (renamedOn kind f names))) s
  | nameComponent {f : Floor} (kind : ComponentKind) (floor index : Nat) (name : String)
      (hf : b.floorByNumber? floor = some f) (hpos : 0 < index) (hle : index ≤ kind.countOn f) :
      Turns clock b s (.renameComponent kind floor index name)
        (b.mapNumbered floor (renamedAt kind (index - 1) name))
        (.componentRenamed kind floor index name) s
  | nameFloor {f : Floor} (floor : Nat) (name : String) (hf : b.floorByNumber? floor = some f) :
      Turns clock b s (.renameFloor floor name)
        (b.mapNumbered floor fun f => { f with name := some name }) (.floorRenamed floor name) s
  | nameBuilding (name : String) :
      Turns clock b s (.renameBuilding name) { b with name } (.buildingRenamed name) s
  | addFloors (count : Nat) :
      Turns clock b s (.addFloors count) (b.appendFloors count clock s).1
        (.floorsAdded count b.name (b.appendFloors count clock s).1.totalFloors)
        (b.appendFloors count clock s).2
  | addEverywhere (kind : ComponentKind) (count : Nat) :
      Turns clock b s (.addComponents kind count none) (appendEverywhere b kind count clock s).1
        (.componentsAdded kind count none) (appendEverywhere b kind count clock s).2
  | addOnFloor {f : Floor} (kind : ComponentKind) (count floor : Nat)
      (hf : b.floorByNumber? floor = some f) :
      Turns clock b s (.addComponents kind count (some floor))
        (b.mapNumbered floor fun _ => (f.appendComponents kind count clock s).1)
        (.componentsAdded kind count (some floor)) (f.appendComponents kind count clock s).2
  | addMultiple {taller wider widest : Building} {said₁ said₂ said₃ : List String}
      {s₁ s₂ s₃ : Stamps} (counts : AddCounts)
      (hfloors : growFloors b counts.floors clock s = ((taller, said₁), s₁))
      (hrestrooms : growComponents taller .restroom counts.restrooms clock s₁
        = ((wider, said₂), s₂))
      (hcorridors : growComponents wider .corridor counts.corridors clock s₂
        = ((widest, said₃), s₃)) :
      Turns clock b s (.addMultiple counts) widest
        (.multipleAdded (said₁ ++ said₂ ++ said₃) b.name widest.totalFloors) s₃
  | removeFloors (count : Nat) (kept : List Floor) (hpos : min count (b.floors.length - 1) ≠ 0)
      (hkept : kept = (b.floors.mergeSort fun f g => f.number ≤ g.number).take
        (b.floors.length - min count (b.floors.length - 1))) :
      Turns clock b s (.removeFloors count) (Building.synced { b with floors := renumber kept })
        (.floorsRemoved (min count (b.floors.length - 1)) (renumber kept).length) s

/-- What carrying out an intent leads to. -/
inductive Effect (c : Collection) (clock : Clock) (s : Stamps) :
    Intent → Outcome → Stamps → Prop
  | answered {intent : Intent} {reply : Reply} (h : Answered c intent reply) :
      Effect c clock s intent ⟨none, reply⟩ s
  | switched {name : String} {b : Building} (h : c.findByName? name = some b) :
      Effect c clock s (.switchBuilding name)
        ⟨some { c with activeId := some b.id }, .switched b.name b.totalFloors⟩ s
  | created {spec : BuildingSpec} {b : Building}
      (hnew : c.findByName? (spec.name.getD defaultName) = none)
      (hquantity : max (max spec.floors spec.restrooms) (max spec.corridors spec.lifts)
        ≤ maxQuantity)
      (hb : b = .generate ("building-" ++ toString (s.next clock).1)
        (spec.name.getD defaultName) spec.floors spec.restrooms spec.corridors spec.lifts) :
      Effect c clock s (.createBuilding spec)
        ⟨some (c.withNewActive b), .created (spec.name.getD defaultName) spec.floors spec.restrooms
          spec.corridors spec.lifts (c.buildings.length + 1)⟩ (s.next clock).2
  | turned {intent : Intent} {b b' : Building} {reply : Reply} {s' : Stamps}
      (hb : c.active? = some b) (h : Turns clock b s intent b' reply s') :
      Effect c clock s intent ⟨some (c.withBuilding b'), reply⟩ s'

/-! ## Inversion -/

theorem onActive_effect {edit : Building → Option Building × Reply}
    (h : ∀ b, c.active? = some b →
      Effect c clock s intent ⟨(edit b).1.map c.withBuilding, (edit b).2⟩ s) :
    Effect c clock s intent (onActive c edit) s := by
  unfold onActive
  split
  · rename_i hnone
    exact .answered (.noActive hnone)
  · rename_i b hb
    exact h b hb

theorem onActiveChecked_effect {edit : Building → Except Fault (Option Building × Reply)} {o : Outcome}
    (h : ∀ b, c.active? = some b → ∀ result, edit b = .ok result →
      Effect c clock s intent ⟨result.1.map c.withBuilding, result.2⟩ s)
    (ho : onActiveChecked c edit = .ok o) : Effect c clock s intent o s := by
  unfold onActiveChecked at ho
  split at ho
  · rename_i hnone
    cases ho
    exact .answered (.noActive hnone)
  · rename_i b hb
    cases hresult : edit b with
    | error fault =>
      rw [hresult] at ho
      cases ho
    | ok result =>
      rw [hresult] at ho
      cases ho
      exact h b hb result hresult

theorem onActiveStamped_effect {edit : Building → Stamps → (Option Building × Reply) × Stamps}
    (h : ∀ b, c.active? = some b →
      Effect c clock s intent ⟨(edit b s).1.1.map c.withBuilding, (edit b s).1.2⟩ (edit b s).2) :
    Effect c clock s intent (onActiveStamped c s edit).1 (onActiveStamped c s edit).2 := by
  unfold onActiveStamped
  split
  · rename_i hnone
    exact .answered (.noActive hnone)
  · rename_i b hb
    exact h b hb

theorem switchTo_effect (c : Collection) (clock : Clock) (s : Stamps) (name : String) :
    Effect c clock s (.switchBuilding name) (switchTo c name) s := by
  unfold switchTo
  split
  · rename_i b hb
    exact .switched hb
  · rename_i hnone
    exact .answered (.notFound hnone)

theorem create_effect (c : Collection) (clock : Clock) (s : Stamps) {spec : BuildingSpec}
    (hquantity : max (max spec.floors spec.restrooms) (max spec.corridors spec.lifts)
      ≤ maxQuantity) :
    Effect c clock s (.createBuilding spec) (create c spec clock s).1 (create c spec clock s).2 := by
  cases hname : c.findByName? (spec.name.getD defaultName) with
  | some b =>
    simp only [create, hname, Option.isSome_some, ↓reduceIte]
    exact .answered (.taken hname)
  | none =>
    have hgrown : ∀ b, (c.withNewActive b).buildings.length = c.buildings.length + 1 := by
      simp [Collection.withNewActive]
    simp only [create, hname, Option.isSome_none, Bool.false_eq_true, ↓reduceIte, hgrown]
    exact .created hname hquantity rfl

theorem nameFloors_effect (c : Collection) (clock : Clock) (s : Stamps) (names : List String) :
    Effect c clock s (.bulkRename .floors names) (onActive c fun b => nameFloors b names) s :=
  onActive_effect fun _ hb => .turned hb (.nameFloors names _ rfl)

theorem nameComponents_effect (c : Collection) (clock : Clock) (s : Stamps) (kind : ComponentKind)
    (floor : Nat) (names : List String) :
    Effect c clock s (.bulkRename (.components kind floor) names)
      (onActive c fun b => nameComponents b kind floor names) s := by
  refine onActive_effect fun b hb => ?_
  unfold nameComponents
  split
  · rename_i hf
    exact .answered (.noFloorToName hb hf)
  · rename_i f hf
    exact .turned hb (.nameComponents kind floor names hf)

theorem nameComponent_effect (hb : c.active? = some b) (clock : Clock) (s : Stamps)
    {kind : ComponentKind} {floor index : Nat} {name : String} {result : Option Building × Reply}
    (h : nameComponent b kind floor index name = .ok result) :
    Effect c clock s (.renameComponent kind floor index name)
      ⟨result.1.map c.withBuilding, result.2⟩ s := by
  cases hf : b.floorByNumber? floor with
  | none =>
    simp only [nameComponent, hf] at h
    cases h
    exact .answered (.noFloorToName hb hf)
  | some f =>
    by_cases hindex : index = 0 ∨ kind.countOn f < index
    · simp only [nameComponent, hf, if_pos hindex] at h
      cases h
      exact .answered (.noComponent hb hf hindex)
    · have hpos : 0 < index := by omega
      have hle : index ≤ kind.countOn f := by omega
      rw [nameComponent_eq hf hpos hle] at h
      split at h
      · cases h
      · cases h
        exact .turned hb (.nameComponent kind floor index name hf hpos hle)

theorem nameFloor_effect (c : Collection) (clock : Clock) (s : Stamps) (floor : Nat)
    (name : String) :
    Effect c clock s (.renameFloor floor name) (onActive c fun b => nameFloor b floor name) s := by
  refine onActive_effect fun b hb => ?_
  unfold nameFloor
  split
  · rename_i hf
    exact .answered (.noFloorToName hb hf)
  · rename_i f hf
    exact .turned hb (.nameFloor floor name hf)

theorem nameBuilding_effect (c : Collection) (clock : Clock) (s : Stamps) (name : String) :
    Effect c clock s (.renameBuilding name)
      (onActive c fun b => (some { b with name }, .buildingRenamed name)) s :=
  onActive_effect fun _ hb => .turned hb (.nameBuilding name)

theorem addComponentsTo_effect (c : Collection) (clock : Clock) (s : Stamps) (kind : ComponentKind)
    (count : Nat) (floor : Option Nat) :
    Effect c clock s (.addComponents kind count floor)
      (onActiveStamped c s fun b s => addComponentsTo b kind count floor clock s).1
      (onActiveStamped c s fun b s => addComponentsTo b kind count floor clock s).2 := by
  refine onActiveStamped_effect fun b hb => ?_
  cases floor with
  | none => exact .turned hb (.addEverywhere kind count)
  | some number =>
    simp only [addComponentsTo]
    cases hf : b.floorByNumber? number with
    | none => exact .answered (.noFloorToExtend hb hf)
    | some f => exact .turned hb (.addOnFloor kind count number hf)

theorem removeFloorsFrom_effect (c : Collection) (clock : Clock) (s : Stamps) (count : Nat) :
    Effect c clock s (.removeFloors count) (onActive c fun b => shortened b count) s := by
  refine onActive_effect fun b hb => ?_
  unfold shortened
  by_cases hzero : min count (b.floors.length - 1) = 0
  · simp only [hzero, ↓reduceIte]
    exact .answered (.lastFloor hb (by omega))
  · simp only [hzero, ↓reduceIte]
    exact .turned hb (.removeFloors count _ hzero rfl)

theorem Effect.of_ok {o : Outcome} {r : Outcome × Stamps} (hr : Effect c clock s intent r.1 r.2)
    (h : (.ok r : Except Fault (Outcome × Stamps)) = .ok (o, s')) : Effect c clock s intent o s' := by
  obtain rfl := Except.ok.inj h
  exact hr

/-- Within the limit for quantities, carrying out an intent has one of the effects. -/
theorem carryOut_effect {o : Outcome} (hquantity : ∀ n, intent.requested? = some n → n ≤ maxQuantity)
    (h : intent.carryOut c clock s = .ok (o, s')) : Effect c clock s intent o s' := by
  cases intent with
  | showCommands => exact .of_ok (.answered .commands) h
  | listBuildings => exact .of_ok (.answered .listing) h
  | switchBuilding name => exact .of_ok (switchTo_effect c clock s name) h
  | createBuilding spec => exact .of_ok (create_effect c clock s (hquantity _ rfl)) h
  | bulkRename target names =>
    cases target with
    | floors => exact .of_ok (nameFloors_effect c clock s names) h
    | components kind floor =>
      exact .of_ok (nameComponents_effect c clock s kind floor names) h
  | renameComponent kind floor index name =>
    simp only [carryOut] at h
    cases hresult : onActiveChecked c (nameComponent · kind floor index name) with
    | error fault =>
      rw [hresult] at h
      cases h
    | ok outcome =>
      rw [hresult] at h
      cases h
      exact onActiveChecked_effect (fun b hb _ hnamed => nameComponent_effect hb clock s hnamed) hresult
  | renameFloor floor name => exact .of_ok (nameFloor_effect c clock s floor name) h
  | renameBuilding name => exact .of_ok (nameBuilding_effect c clock s name) h
  | addFloors count =>
    exact .of_ok (onActiveStamped_effect fun b hb => .turned hb (.addFloors count)) h
  | addComponents kind count floor =>
    exact .of_ok (addComponentsTo_effect c clock s kind count floor) h
  | addMultiple counts =>
    exact .of_ok
      (onActiveStamped_effect fun b hb => .turned hb (.addMultiple counts rfl rfl rfl)) h
  | removeFloors count =>
    rw [carryOut_removeFloors] at h
    exact .of_ok (removeFloorsFrom_effect c clock s count) h

/-- **What carrying out an intent leads to.** -/
theorem apply_effect {o : Outcome} (h : intent.apply c clock s = .ok (o, s')) :
    Effect c clock s intent o s' := by
  unfold apply at h
  split at h
  · rename_i n hn
    obtain ⟨hrequested, hlt⟩ := Option.filter_eq_some_iff.1 hn
    cases h
    exact .answered (.tooMany hrequested (by simpa using hlt))
  · rename_i hnone
    refine carryOut_effect (fun n hn => ?_) h
    rw [hn] at hnone
    simpa [Option.filter] using hnone

/-! ## The id of a building -/

theorem id_growFloors {b' : Building} {count : Option Nat} {said : List String}
    (h : growFloors b count clock s = ((b', said), s')) : b'.id = b.id := by
  unfold growFloors at h
  split at h <;> cases h <;> rfl

theorem id_growComponents {b' : Building} {kind : ComponentKind} {count : Option Nat}
    {said : List String} (h : growComponents b kind count clock s = ((b', said), s')) :
    b'.id = b.id := by
  unfold growComponents at h
  split at h <;> cases h <;> rfl

/-- A building keeps its id, whatever it is turned into. -/
theorem Turns.id_eq {b' : Building} {reply : Reply} (h : Turns clock b s intent b' reply s') :
    b'.id = b.id := by
  cases h with
  | addMultiple counts hfloors hrestrooms hcorridors =>
    rw [id_growComponents hcorridors, id_growComponents hrestrooms, id_growFloors hfloors]
  | _ => rfl

end Floorplan.Intent
