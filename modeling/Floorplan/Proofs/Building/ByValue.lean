import Floorplan.Building.Basic

set_option autoImplicit false

/-! # Equality by value

Buildings are compared by value, and zero has two signs, so buildings that are equal by value may still
differ in their coordinates. Without those they are the same (`Building.unplaced_eq_of_beq`), and what
does not depend on coordinates is the same of both. -/

namespace Floorplan

/-! ## Without coordinates -/

/-- The lift without its place. -/
def Lift.unplaced (l : Lift) : Lift := { l with position := ⟨.zero, .zero⟩ }

/-- The restroom without its place. -/
def Restroom.unplaced (r : Restroom) : Restroom := { r with position := ⟨.zero, .zero⟩ }

/-- The corridor without its place and those of its lifts. -/
def Corridor.unplaced (c : Corridor) : Corridor :=
  { c with position := ⟨.zero, .zero⟩, lifts := c.lifts.map Lift.unplaced }

/-- The floor without the places of what is on it. -/
def Floor.unplaced (f : Floor) : Floor :=
  { f with
    restrooms := f.restrooms.map Restroom.unplaced
    corridors := f.corridors.map Corridor.unplaced }

/-- The building without the places of what is in it. -/
def Building.unplaced (b : Building) : Building := { b with floors := b.floors.map Floor.unplaced }

/-! ## What is equal by value -/

theorem map_eq_of_beq {α β : Type} [BEq α] {φ : α → β} (h : ∀ a a' : α, (a == a') = true → φ a = φ a')
    {as as' : List α} (has : (as == as') = true) : as.map φ = as'.map φ := by
  induction as generalizing as' with
  | nil =>
    cases as' with
    | nil => rfl
    | cons a' as' => cases has
  | cons a as ih =>
    cases as' with
    | nil => cases has
    | cons a' as' =>
      rw [List.cons_beq_cons, Bool.and_eq_true] at has
      rw [List.map_cons, List.map_cons, h a a' has.1, ih has.2]

theorem Lift.unplaced_eq_of_beq (l l' : Lift) (h : (l == l') = true) : l.unplaced = l'.unplaced := by
  simp only [BEq.beq, instBEqLift.beq, Bool.and_eq_true] at h
  rw [unplaced, unplaced, of_decide_eq_true h.1]

theorem Restroom.unplaced_eq_of_beq (r r' : Restroom) (h : (r == r') = true) :
    r.unplaced = r'.unplaced := by
  simp only [BEq.beq, instBEqRestroom.beq, Bool.and_eq_true] at h
  obtain ⟨hid, hname, -, hmap, hfixture⟩ := h
  have hmap' : r.map = r'.map := eq_of_beq hmap
  have hfixture' : r.fixture = r'.fixture := eq_of_beq hfixture
  rw [unplaced, unplaced, of_decide_eq_true hid, of_decide_eq_true hname, hmap', hfixture']

theorem Corridor.unplaced_eq_of_beq (c c' : Corridor) (h : (c == c') = true) :
    c.unplaced = c'.unplaced := by
  simp only [BEq.beq, instBEqCorridor.beq, Bool.and_eq_true] at h
  obtain ⟨hid, hname, -, hlifts, hmap⟩ := h
  have hlifts' := map_eq_of_beq Lift.unplaced_eq_of_beq hlifts
  have hmap' : c.map = c'.map := eq_of_beq hmap
  rw [unplaced, unplaced, of_decide_eq_true hid, of_decide_eq_true hname, hlifts', hmap']

theorem Floor.unplaced_eq_of_beq (f f' : Floor) (h : (f == f') = true) : f.unplaced = f'.unplaced := by
  simp only [BEq.beq, instBEqFloor.beq, Bool.and_eq_true] at h
  obtain ⟨hid, hnumber, hname, hrestrooms, hcorridors⟩ := h
  have hname' : f.name = f'.name := eq_of_beq hname
  have hrestrooms' := map_eq_of_beq Restroom.unplaced_eq_of_beq hrestrooms
  have hcorridors' := map_eq_of_beq Corridor.unplaced_eq_of_beq hcorridors
  rw [unplaced, unplaced, of_decide_eq_true hid, of_decide_eq_true hnumber, hname', hrestrooms',
    hcorridors']

/-- Buildings that are equal by value are the same but for coordinates. -/
theorem Building.unplaced_eq_of_beq (b b' : Building) (h : (b == b') = true) :
    b.unplaced = b'.unplaced := by
  simp only [BEq.beq, instBEqBuilding.beq, Bool.and_eq_true] at h
  obtain ⟨hid, hname, htotal, hfloors⟩ := h
  have hfloors' := map_eq_of_beq Floor.unplaced_eq_of_beq hfloors
  rw [unplaced, unplaced, of_decide_eq_true hid, of_decide_eq_true hname, of_decide_eq_true htotal,
    hfloors']

end Floorplan
