import Floorplan.Proofs.Building.Additive
import Floorplan.Proofs.Building.Keyed

set_option autoImplicit false

/-! # Edits whose address belongs to nothing

An edit names the floor, the component or the lift that it is about by ids. If nothing in the building
has these ids, the edit leaves the building as it is, whatever the order and the numbers of its floors,
but for the removal of a floor: where there are several floors it numbers them anew and reports them,
though none is taken away. So a floor that is not there can be removed without a trace from a building
with one floor at most and from one whose floors are counted, and from no other
(`Edit.applyTo_eq_self_iff`). -/

namespace Floorplan

/-! ## Edits that find nothing -/

/-- The ids of the components of a kind on a floor. -/
def ComponentKind.idsOn (kind : ComponentKind) (f : Floor) : List String :=
  match kind with
  | restroom => f.restrooms.map (·.id)
  | corridor => f.corridors.map (·.id)

namespace Floor

variable {f : Floor} {id : String}

theorem removeComponent_eq_self {kind : ComponentKind} (h : id ∉ kind.idsOn f) :
    f.removeComponent kind id = f := by
  cases kind with
  | restroom =>
    have hkept : (f.restrooms.filter fun r => r.id ≠ id) = f.restrooms :=
      filter_keyed_eq_self fun r hr hid => h (hid ▸ List.mem_map_of_mem hr)
    rw [removeComponent, hkept]
  | corridor =>
    have hkept : (f.corridors.filter fun c => c.id ≠ id) = f.corridors :=
      filter_keyed_eq_self fun c hc hid => h (hid ▸ List.mem_map_of_mem hc)
    rw [removeComponent, hkept]

end Floor

namespace Building

variable {b : Building} {id : String}

theorem addComponent_eq_self (kind : ComponentKind) (h : ∀ f ∈ b.floors, f.id ≠ id) (clock : Clock)
    (s : Stamps) : b.addComponent kind id clock s = (b, s) := by
  have hnone : b.floorById? id = none := List.find?_eq_none.2 fun f hf => by simpa using h f hf
  rw [addComponent, hnone]

/-- The floors are numbered anew without a trace exactly where they are counted. -/
theorem synced_renumber_eq_self_iff :
    synced { b with floors := renumber b.floors } = b ↔ b.Counted := by
  constructor
  · intro h
    rw [← h]
    exact Counted.renumber b b.floors
  · intro h
    have hkept : renumber b.floors = b.floors := by
      rw [renumber_of_ascending (ascending_of_numbers h.floorNumbers_eq),
        numbered_of_numbers h.floorNumbers_eq]
    rw [hkept, synced, ← h.totalFloors_eq]

/-- What comes of removing a floor that is not there. -/
theorem removeFloor_eq_self_iff (h : ∀ f ∈ b.floors, f.id ≠ id) :
    b.removeFloor id = b ↔ b.floors.length ≤ 1 ∨ b.Counted := by
  rw [removeFloor]
  split
  · exact iff_of_true rfl (Or.inl ‹_›)
  · rw [filter_keyed_eq_self h, synced_renumber_eq_self_iff, or_iff_right ‹_›]

end Building

/-! ## Addresses -/

namespace Edit

/-- What the edit is about is in the building. Edits that are about the whole building need nothing
    else. -/
def Finds (e : Edit) (b : Building) : Prop :=
  match e with
  | removeFloor floor | addComponent _ floor | renameFloor floor _ => ∃ f ∈ b.floors, f.id = floor
  | removeComponent kind floor component | renameComponent kind floor component _ =>
    ∃ f ∈ b.floors, f.id = floor ∧ component ∈ kind.idsOn f
  | addLift floor corridor => ∃ f ∈ b.floors, f.id = floor ∧ ∃ c ∈ f.corridors, c.id = corridor
  | removeLift floor corridor lift =>
    ∃ f ∈ b.floors, f.id = floor ∧ ∃ c ∈ f.corridors, c.id = corridor ∧ ∃ l ∈ c.lifts, l.id = lift
  | addFloor | appendFloors _ | renumber | synced => True

instance (e : Edit) (b : Building) : Decidable (e.Finds b) := by
  cases e <;> dsimp only [Finds] <;> infer_instance

variable {b : Building}

/-- Every edit but the removal of a floor leaves the building alone if its address belongs to
    nothing. -/
theorem applyTo_of_not_finds {e : Edit} (h : ¬ e.Finds b) (hother : ∀ floor, e ≠ .removeFloor floor)
    (clock : Clock) (s : Stamps) : (e.applyTo b clock s).1 = b := by
  cases e with
  | addFloor | appendFloors | renumber | synced => exact absurd trivial h
  | removeFloor floor => exact absurd rfl (hother floor)
  | addComponent kind floor =>
    have hfloor : ∀ f ∈ b.floors, f.id ≠ floor := fun f hf hid => h ⟨f, hf, hid⟩
    rw [applyTo, b.addComponent_eq_self kind hfloor]
  | removeComponent kind floor component =>
    refine Building.mapFloor_eq_self fun f hf hid => ?_
    exact Floor.removeComponent_eq_self fun hcomponent => h ⟨f, hf, hid, hcomponent⟩
  | addLift floor corridor =>
    refine Building.mapFloor_eq_self fun f hf hid => ?_
    exact Floor.mapCorridor_eq_self fun c hc hcorridor => absurd ⟨f, hf, hid, c, hc, hcorridor⟩ h
  | removeLift floor corridor lift =>
    refine Building.mapFloor_eq_self fun f hf hid => ?_
    refine Floor.mapCorridor_eq_self fun c hc hcorridor => ?_
    have hkept : (c.lifts.filter fun l => l.id ≠ lift) = c.lifts :=
      filter_keyed_eq_self fun l hl hlift => h ⟨f, hf, hid, c, hc, hcorridor, l, hl, hlift⟩
    rw [hkept]
  | renameFloor floor name =>
    exact Building.mapFloor_eq_self fun f hf hid => absurd ⟨f, hf, hid⟩ h
  | renameComponent kind floor component name =>
    refine Building.mapFloor_eq_self fun f hf hid => ?_
    have hcomponent : component ∉ kind.idsOn f := fun hcomponent => h ⟨f, hf, hid, hcomponent⟩
    cases kind with
    | restroom =>
      exact Floor.mapRestroom_eq_self fun r hr hid =>
        absurd (hid ▸ List.mem_map_of_mem hr) hcomponent
    | corridor =>
      exact Floor.mapCorridor_eq_self fun c hc hid =>
        absurd (hid ▸ List.mem_map_of_mem hc) hcomponent

/-- **When an edit whose address belongs to nothing changes nothing**: always, unless a floor is to be
    removed from a building with several floors that are not counted. -/
theorem applyTo_eq_self_iff {e : Edit} (h : ¬ e.Finds b) (clock : Clock) (s : Stamps) :
    (e.applyTo b clock s).1 = b ↔
      ∀ floor, e = .removeFloor floor → b.floors.length ≤ 1 ∨ b.Counted := by
  by_cases hremoval : ∃ floor, e = .removeFloor floor
  · obtain ⟨floor, rfl⟩ := hremoval
    have hkept : b.removeFloor floor = b ↔ b.floors.length ≤ 1 ∨ b.Counted :=
      Building.removeFloor_eq_self_iff fun f hf hid => h ⟨f, hf, hid⟩
    exact hkept.trans ⟨fun hcalm _ _ => hcalm, fun hcalm => hcalm floor rfl⟩
  · have hother : ∀ floor, e ≠ .removeFloor floor := not_exists.1 hremoval
    exact iff_of_true (applyTo_of_not_finds h hother clock s) fun floor heq =>
      absurd heq (hother floor)

/-- A saved building: two floors have one id, a number is missing, and four floors are reported. -/
def patchwork : Building :=
  { id := "mill", name := "Mill", totalFloors := 4
    floors := [.generate "loft" 5 0 0 0, .generate "yard" 2 1 1 1, .generate "loft" 2 1 1 2] }

/-- The lift that is to be removed is on another floor. -/
theorem patchwork_removeLift :
    ¬ (removeLift "loft" "loft-corridor-1" "yard-corridor-1-lift-1").Finds patchwork ∧
      ((removeLift "loft" "loft-corridor-1" "yard-corridor-1-lift-1").applyTo patchwork
        (.still 1000) {}).1 = patchwork := by
  have hlost : ¬ (removeLift "loft" "loft-corridor-1" "yard-corridor-1-lift-1").Finds patchwork := by
    decide
  exact ⟨hlost, (applyTo_eq_self_iff hlost (.still 1000) {}).2 fun _ heq => nomatch heq⟩

/-- A building in which a floor number is missing. -/
def gapped : Building :=
  { id := "mill", name := "Mill", totalFloors := 2
    floors := [.generate "yard" 1 0 0 0, .generate "loft" 3 0 0 0] }

/-- No floor is removed, but the third floor has become the second. -/
theorem gapped_removeFloor :
    ¬ (removeFloor "attic").Finds gapped ∧
      ((removeFloor "attic").applyTo gapped (.still 1000) {}).1 ≠ gapped := by
  refine ⟨by decide, fun hsame => ?_⟩
  have hnumbers : ((removeFloor "attic").applyTo gapped (.still 1000) {}).1.floorNumbers = [1, 2] :=
    map_number_renumber _
  rw [hsame] at hnumbers
  cases hnumbers

end Edit

end Floorplan
