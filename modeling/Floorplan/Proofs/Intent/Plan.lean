import Floorplan.Proofs.Building.Edit
import Floorplan.Proofs.Building.Plan
import Floorplan.Proofs.Intent.Rename
import Floorplan.Proofs.Intent.Effect

set_option autoImplicit false

/-! # Intents do not look at ids

What an intent makes of a building shows in the plan of the result and in the reply. Both are the same
as when the intent is carried out on the plan of the building, with a clock that shows nothing: the
edits of the active building look at no id and at no stamp. -/

namespace Floorplan.Intent

variable {b b' : Building} {clock : Clock} {s : Stamps}

/-- What is to be seen of an edit: the plan of the new building, if there is one, and the reply. -/
def outline (result : Option Building × Reply) : Option Building × Reply :=
  (result.1.map Building.plan, result.2)

/-! ## Renaming -/

/-- Names are given before or after something else is done to every item. -/
theorem map_renamePositional_comm {α β : Type} {setName : α → String → α} {setName' : β → String → β}
    {φ : α → β} (hφ : ∀ a n, φ (setName a n) = setName' (φ a) n) (items : List α)
    (names : List String) :
    (renamePositional setName items names).map φ = renamePositional setName' (items.map φ) names := by
  induction items generalizing names with
  | nil => rfl
  | cons a items ih =>
    cases names with
    | nil => rfl
    | cons n names =>
      simp only [renamePositional, List.map_cons, ih]
      split
      · rfl
      · rw [hφ]

theorem map_modify_comm {α β : Type} {edit : α → α} {edit' : β → β} {φ : α → β}
    (hφ : ∀ a, φ (edit a) = edit' (φ a)) (items : List α) (slot : Nat) :
    (items.modify slot edit).map φ = (items.map φ).modify slot edit' := by
  apply List.ext_getElem (by simp)
  intro i _ _
  simp only [List.getElem_map, List.getElem_modify]
  split
  · exact hφ _
  · rfl

theorem plan_renamedOn (kind : ComponentKind) (f : Floor) (names : List String) :
    (renamedOn kind f names).plan = renamedOn kind f.plan names := by
  cases kind with
  | restroom =>
    simp only [renamedOn, Floor.plan, Floor.mk.injEq, true_and, and_true]
    exact map_renamePositional_comm (fun _ _ => rfl) ..
  | corridor =>
    simp only [renamedOn, Floor.plan, Floor.mk.injEq, true_and]
    exact map_renamePositional_comm (fun _ _ => rfl) ..

theorem plan_renamedAt (kind : ComponentKind) (slot : Nat) (name : String) (f : Floor) :
    (renamedAt kind slot name f).plan = renamedAt kind slot name f.plan := by
  cases kind with
  | restroom =>
    simp only [renamedAt, Floor.plan, Floor.mk.injEq, true_and, and_true]
    refine map_modify_comm ?_ f.restrooms slot
    exact fun _ => rfl
  | corridor =>
    simp only [renamedAt, Floor.plan, Floor.mk.injEq, true_and]
    refine map_modify_comm ?_ f.corridors slot
    exact fun _ => rfl

@[simp] theorem namesOn_plan (kind : ComponentKind) (f : Floor) :
    namesOn kind f.plan = namesOn kind f := by
  cases kind <;> simp [namesOn, Floor.plan, Function.comp_def]

theorem floorMissing_plan (b : Building) (floor : Nat) :
    floorMissing b.plan floor = floorMissing b floor := by
  simp [floorMissing]

theorem outline_nameFloors (b : Building) (names : List String) :
    outline (nameFloors b names) = outline (nameFloors b.plan names) := by
  have hfloors : (renamePositional (fun f n => { f with name := some n }) b.floors names).map
        Floor.plan
      = renamePositional (fun f n => { f with name := some n }) (b.floors.map Floor.plan) names :=
    map_renamePositional_comm (fun _ _ => rfl) ..
  simp only [outline, nameFloors, Building.floors_plan, List.length_map, Option.map_some]
  rw [← hfloors]
  simp [Building.plan, Function.comp_def]

theorem outline_nameComponents (b : Building) (kind : ComponentKind) (floor : Nat)
    (names : List String) :
    outline (nameComponents b kind floor names) = outline (nameComponents b.plan kind floor names) := by
  simp only [nameComponents, Building.floorByNumber?_plan]
  cases b.floorByNumber? floor with
  | none => simp only [outline, Option.map_none, floorMissing_plan]
  | some f =>
    have hplan : (b.mapNumbered floor fun _ => renamedOn kind f names).plan
        = (b.plan.mapNumbered floor fun _ => renamedOn kind f.plan names).plan :=
      b.plan_mapNumbered floor fun _ => by rw [← plan_renamedOn, Floor.plan_plan]
    simp only [outline, Option.map_some, hplan, ComponentKind.countOn_plan]
    rw [← plan_renamedOn, namesOn_plan]

theorem outline_nameComponent (b : Building) (kind : ComponentKind) (floor index : Nat)
    (name : String) :
    (nameComponent b kind floor index name).map outline
      = (nameComponent b.plan kind floor index name).map outline := by
  have hshort : (b.plan.floors.any fun g => g.number = floor && kind.countOn g < index)
      = b.floors.any fun g => g.number = floor && kind.countOn g < index := by
    rw [Building.floors_plan, List.any_map]
    congr 1
    funext f
    simp only [Function.comp_apply, ComponentKind.countOn_plan]
    rfl
  have hplan : (b.mapNumbered floor (renamedAt kind (index - 1) name)).plan
      = (b.plan.mapNumbered floor (renamedAt kind (index - 1) name)).plan :=
    b.plan_mapNumbered floor fun f => by rw [← plan_renamedAt, Floor.plan_plan]
  have hfound := b.floorByNumber?_plan floor
  cases hf : b.floorByNumber? floor with
  | none =>
    rw [hf] at hfound
    simp only [nameComponent, hf, hfound, Option.map_none, floorMissing_plan]
  | some f =>
    rw [hf, Option.map_some] at hfound
    by_cases hindex : index = 0 ∨ kind.countOn f < index
    · simp only [nameComponent, hf, hfound, ComponentKind.countOn_plan, if_pos hindex]
    · have hpos : 0 < index := by omega
      have hle : index ≤ kind.countOn f := by omega
      rw [nameComponent_eq hf hpos hle, nameComponent_eq hfound hpos (by simpa using hle), hshort]
      split
      · rfl
      · simp [outline, Except.map, hplan]

theorem outline_nameFloor (b : Building) (floor : Nat) (name : String) :
    outline (nameFloor b floor name) = outline (nameFloor b.plan floor name) := by
  simp only [nameFloor, Building.floorByNumber?_plan]
  cases b.floorByNumber? floor with
  | none => simp only [outline, Option.map_none, floorMissing_plan]
  | some f =>
    have hplan : (b.mapNumbered floor fun f => { f with name := some name }).plan
        = (b.plan.mapNumbered floor fun f => { f with name := some name }).plan :=
      b.plan_mapNumbered floor fun f => by simp [Floor.plan, Function.comp_def]
    simp only [outline, Option.map_some, hplan]

/-! ## Adding -/

theorem outline_addFloorsTo (b : Building) (count : Nat) (clock : Clock) (s : Stamps) :
    outline (addFloorsTo b count clock s).1 = outline (addFloorsTo b.plan count (.still 0) {}).1 := by
  have hplan := b.plan_appendFloors count clock s
  have htotal := congrArg Building.totalFloors hplan
  simp only [Building.totalFloors_plan] at htotal
  simp only [outline, addFloorsTo, Option.map_some, hplan, htotal, Building.name_plan]

/-- Each floor grows in the same way, whatever stamps are drawn on the floors before. -/
theorem plan_appendToEach (kind : ComponentKind) (count : Nat) (clock : Clock) (floors : List Floor)
    (s : Stamps) :
    (appendToEach kind count clock floors s).1.map Floor.plan
      = floors.map fun f => (f.plan.appendComponents kind count (.still 0) {}).1.plan := by
  induction floors generalizing s with
  | nil => rfl
  | cons f floors ih =>
    simp only [appendToEach, List.map_cons, ih, f.plan_appendComponents kind count clock s]

theorem plan_appendEverywhere (b : Building) (kind : ComponentKind) (count : Nat) (clock : Clock)
    (s : Stamps) :
    (appendEverywhere b kind count clock s).1.plan
      = (appendEverywhere b.plan kind count (.still 0) {}).1.plan := by
  simp [appendEverywhere, Building.plan, plan_appendToEach, Function.comp_def]

theorem outline_addComponentsTo (b : Building) (kind : ComponentKind) (count : Nat)
    (floor : Option Nat) (clock : Clock) (s : Stamps) :
    outline (addComponentsTo b kind count floor clock s).1
      = outline (addComponentsTo b.plan kind count floor (.still 0) {}).1 := by
  cases floor with
  | none =>
    simp only [outline, addComponentsTo, Option.map_some, plan_appendEverywhere b kind count clock s]
  | some number =>
    simp only [addComponentsTo, Building.floorByNumber?_plan]
    cases b.floorByNumber? number with
    | none => rfl
    | some f =>
      have hplan : (b.mapNumbered number fun _ => (f.appendComponents kind count clock s).1).plan
          = (b.plan.mapNumbered number fun _ =>
              (f.plan.appendComponents kind count (.still 0) {}).1).plan :=
        b.plan_mapNumbered number fun _ => f.plan_appendComponents kind count clock s
      simp only [outline, Option.map_some, hplan]

/-- What is to be seen of one part of a combined addition. -/
def shown (part : Building × List String) : Building × List String := part.map Building.plan id

theorem shown_growFloors (b : Building) (count : Option Nat) (clock : Clock) (s : Stamps) :
    shown (growFloors b count clock s).1 = shown (growFloors b.plan count (.still 0) {}).1 := by
  unfold growFloors
  split
  · simp [shown]
  · rename_i n _
    simp only [shown, Prod.map_apply, b.plan_appendFloors n clock s]

theorem shown_growComponents (b : Building) (kind : ComponentKind) (count : Option Nat)
    (clock : Clock) (s : Stamps) :
    shown (growComponents b kind count clock s).1
      = shown (growComponents b.plan kind count (.still 0) {}).1 := by
  unfold growComponents
  split
  · simp [shown]
  · rename_i n _
    simp only [shown, Prod.map_apply, plan_appendEverywhere b kind n clock s]

theorem shown_growComponents_congr (h : b.plan = b'.plan) (kind : ComponentKind)
    (count : Option Nat) (clock clock' : Clock) (s s' : Stamps) :
    shown (growComponents b kind count clock s).1
      = shown (growComponents b' kind count clock' s').1 := by
  rw [shown_growComponents b, shown_growComponents b', h]

theorem outline_addMultipleTo (b : Building) (counts : AddCounts) (clock : Clock) (s : Stamps) :
    outline (addMultipleTo b counts clock s).1
      = outline (addMultipleTo b.plan counts (.still 0) {}).1 := by
  have htaller := shown_growFloors b counts.floors clock s
  simp only [addMultipleTo]
  generalize growFloors b counts.floors clock s = r₁ at htaller ⊢
  generalize growFloors b.plan counts.floors (.still 0) {} = r₁' at htaller ⊢
  obtain ⟨htaller, hsaid₁⟩ := Prod.ext_iff.1 htaller
  have hwider := shown_growComponents_congr htaller .restroom counts.restrooms clock (.still 0)
    r₁.2 r₁'.2
  generalize growComponents r₁.1.1 .restroom counts.restrooms clock r₁.2 = r₂ at hwider ⊢
  generalize growComponents r₁'.1.1 .restroom counts.restrooms (.still 0) r₁'.2 = r₂' at hwider ⊢
  obtain ⟨hwider, hsaid₂⟩ := Prod.ext_iff.1 hwider
  have hwidest := shown_growComponents_congr hwider .corridor counts.corridors clock (.still 0)
    r₂.2 r₂'.2
  generalize growComponents r₂.1.1 .corridor counts.corridors clock r₂.2 = r₃ at hwidest ⊢
  generalize growComponents r₂'.1.1 .corridor counts.corridors (.still 0) r₂'.2 = r₃' at hwidest ⊢
  obtain ⟨hwidest, hsaid₃⟩ := Prod.ext_iff.1 hwidest
  simp only [shown, Prod.map_fst, Prod.map_snd, id_eq] at hwidest hsaid₁ hsaid₂ hsaid₃
  have htotal : r₃.1.1.totalFloors = r₃'.1.1.totalFloors := by
    simpa using congrArg Building.totalFloors hwidest
  simp only [outline, Option.map_some, hwidest, htotal, hsaid₁, hsaid₂, hsaid₃, Building.name_plan]

/-! ## Removing -/

theorem map_plan_mergeSort (floors : List Floor) :
    (floors.map Floor.plan).mergeSort (fun f g => f.number ≤ g.number)
      = (floors.mergeSort fun f g => f.number ≤ g.number).map Floor.plan := by
  symm
  exact List.map_mergeSort fun _ _ _ _ => rfl

theorem map_plan_renumber (floors : List Floor) :
    (renumber floors).map Floor.plan = renumber (floors.map Floor.plan) := by
  simp only [renumber, map_plan_mergeSort, List.zipIdx_map, List.map_map]
  exact List.map_congr_left fun _ _ => rfl

theorem outline_shortened (b : Building) (count : Nat) :
    outline (shortened b count) = outline (shortened b.plan count) := by
  simp only [shortened, Building.floors_plan, List.length_map]
  split
  · rfl
  · simp [outline, Building.synced, Building.plan, map_plan_mergeSort, map_plan_renumber,
      ← List.map_take, length_renumber, Function.comp_def]

/-! ## The active building -/

/-- An edit that keeps the id of a building and makes of it what a plain edit makes of its plan. -/
structure Blind (edit plain : Building → Option Building × Reply) : Prop where
  outline_eq : ∀ b, outline (edit b) = outline (plain b.plan)
  id_eq : ∀ b, ∀ x ∈ (edit b).1, x.id = b.id

theorem blind_nameFloors (names : List String) :
    Blind (nameFloors · names) (nameFloors · names) :=
  ⟨fun b => outline_nameFloors b names, fun b x hx => by cases hx; rfl⟩

theorem blind_nameComponents (kind : ComponentKind) (floor : Nat) (names : List String) :
    Blind (nameComponents · kind floor names) (nameComponents · kind floor names) := by
  refine ⟨fun b => outline_nameComponents b kind floor names, fun b x hx => ?_⟩
  simp only [nameComponents] at hx
  split at hx <;> cases hx
  rfl

theorem blind_nameFloor (floor : Nat) (name : String) :
    Blind (nameFloor · floor name) (nameFloor · floor name) := by
  refine ⟨fun b => outline_nameFloor b floor name, fun b x hx => ?_⟩
  simp only [nameFloor] at hx
  split at hx <;> cases hx
  rfl

theorem blind_nameBuilding (name : String) :
    Blind (fun b => (some { b with name }, .buildingRenamed name))
      (fun b => (some { b with name }, .buildingRenamed name)) :=
  ⟨fun b => by simp [outline, Building.plan, Function.comp_def], fun b x hx => by cases hx; rfl⟩

theorem blind_addFloorsTo (count : Nat) (clock : Clock) (s : Stamps) :
    Blind (fun b => (addFloorsTo b count clock s).1) fun b => (addFloorsTo b count (.still 0) {}).1 :=
  ⟨fun b => outline_addFloorsTo b count clock s, fun b x hx => by cases hx; rfl⟩

theorem blind_addComponentsTo (kind : ComponentKind) (count : Nat) (floor : Option Nat)
    (clock : Clock) (s : Stamps) :
    Blind (fun b => (addComponentsTo b kind count floor clock s).1)
      fun b => (addComponentsTo b kind count floor (.still 0) {}).1 := by
  refine ⟨fun b => outline_addComponentsTo b kind count floor clock s, fun b x hx => ?_⟩
  cases floor with
  | none =>
    cases hx
    rfl
  | some number =>
    simp only [addComponentsTo] at hx
    split at hx <;> cases hx
    rfl

theorem blind_addMultipleTo (counts : AddCounts) (clock : Clock) (s : Stamps) :
    Blind (fun b => (addMultipleTo b counts clock s).1)
      fun b => (addMultipleTo b counts (.still 0) {}).1 := by
  refine ⟨fun b => outline_addMultipleTo b counts clock s, fun b x hx => ?_⟩
  cases hx
  rw [id_growComponents rfl, id_growComponents rfl, id_growFloors rfl]

theorem blind_shortened (count : Nat) : Blind (shortened · count) (shortened · count) := by
  refine ⟨fun b => outline_shortened b count, fun b x hx => ?_⟩
  simp only [shortened] at hx
  split at hx <;> cases hx
  rfl

end Floorplan.Intent
