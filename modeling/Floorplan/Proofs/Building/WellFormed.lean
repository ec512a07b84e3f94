import Floorplan.Proofs.Building.Issued
import Floorplan.Proofs.Building.Lookup
import Mathlib.Data.List.Forall2

set_option autoImplicit false

/-! # Well-formed buildings

In a well-formed building the number of floors is the one that it reports, the floors are numbered
from one in their order, and siblings have different ids. This alone is not kept by the operations
that add something, because it does not say which ids are still to come. `Sound bound` adds where the
ids come from: each is issued by its owner with a number up to a bound. It is kept by every operation,
with the bound growing along with the stamps, and implies `WellFormed`. -/

namespace Floorplan

/-! ## Well-formedness -/

/-- Siblings on the floor have different ids. -/
structure Floor.WellFormed (f : Floor) : Prop where
  restroomIds : (f.restrooms.map (·.id)).Nodup
  corridorIds : (f.corridors.map (·.id)).Nodup
  liftIds : ∀ c ∈ f.corridors, (c.lifts.map (·.id)).Nodup

/-- The building reports its floors, which are numbered from one in their order and have different
    ids. -/
structure Building.WellFormed (b : Building) : Prop where
  totalFloors_eq : b.totalFloors = b.floors.length
  floorNumbers_eq : b.floorNumbers = List.range' 1 b.floors.length
  floorIds : (b.floors.map (·.id)).Nodup
  floors : ∀ f ∈ b.floors, f.WellFormed

/-- The buildings are well-formed and have different ids, and the active one is one of them. -/
structure Collection.WellFormed (c : Collection) : Prop where
  buildingIds : (c.buildings.map (·.id)).Nodup
  active : ∀ id, c.activeId = some id → ∃ b ∈ c.buildings, b.id = id
  buildings : ∀ b ∈ c.buildings, b.WellFormed

/-! ## With the origin of the ids -/

/-- The ids on the floor have been issued with numbers up to the bound. -/
structure Floor.Sound (bound : Nat) (f : Floor) : Prop where
  restrooms : Series (Numbered (f.id ++ "-restroom-") bound) (f.restrooms.map (·.id))
  corridors : Series (Numbered (f.id ++ "-corridor-") bound) (f.corridors.map (·.id))
  lifts : ∀ c ∈ f.corridors, Series (Numbered (c.id ++ "-lift-") bound) (c.lifts.map (·.id))

/-- The building is well-formed and its ids have been issued with numbers up to the bound. -/
structure Building.Sound (bound : Nat) (b : Building) : Prop where
  totalFloors_eq : b.totalFloors = b.floors.length
  floorNumbers_eq : b.floorNumbers = List.range' 1 b.floors.length
  floorIds : Series (NumberedFloor b.id bound) (b.floors.map (·.id))
  floors : ∀ f ∈ b.floors, f.Sound bound

/-- The collection is well-formed and its ids have been issued with numbers up to the bound. -/
structure Collection.Sound (bound : Nat) (c : Collection) : Prop where
  buildingIds : Series (Numbered "building-" bound) (c.buildings.map (·.id))
  active : ∀ id, c.activeId = some id → ∃ b ∈ c.buildings, b.id = id
  buildings : ∀ b ∈ c.buildings, b.Sound bound

/-- Each building's floors can be counted by a word. -/
def Collection.Fits (c : Collection) : Prop := ∀ b ∈ c.buildings, b.floors.length < wordLimit

instance (c : Collection) : Decidable c.Fits :=
  inferInstanceAs (Decidable (∀ b ∈ c.buildings, b.floors.length < wordLimit))

variable {m n : Nat} {f g : Floor} {b : Building} {c : Collection}

theorem Floor.Sound.wellFormed (h : f.Sound n) : f.WellFormed :=
  ⟨h.restrooms.nodup, h.corridors.nodup, fun c hc => (h.lifts c hc).nodup⟩

theorem Building.Sound.wellFormed (h : b.Sound n) : b.WellFormed :=
  ⟨h.totalFloors_eq, h.floorNumbers_eq, h.floorIds.nodup, fun f hf => (h.floors f hf).wellFormed⟩

theorem Collection.Sound.wellFormed (h : c.Sound n) : c.WellFormed :=
  ⟨h.buildingIds.nodup, h.active, fun b hb => (h.buildings b hb).wellFormed⟩

theorem Floor.Sound.mono (hmn : m ≤ n) (h : f.Sound m) : f.Sound n :=
  ⟨h.restrooms.mono fun _ => .mono hmn, h.corridors.mono fun _ => .mono hmn,
    fun c hc => (h.lifts c hc).mono fun _ => .mono hmn⟩

theorem Building.Sound.mono (hmn : m ≤ n) (h : b.Sound m) : b.Sound n :=
  ⟨h.totalFloors_eq, h.floorNumbers_eq, h.floorIds.mono fun _ => .mono hmn,
    fun f hf => (h.floors f hf).mono hmn⟩

theorem Collection.Sound.mono (hmn : m ≤ n) (h : c.Sound m) : c.Sound n :=
  ⟨h.buildingIds.mono fun _ => .mono hmn, h.active, fun b hb => (h.buildings b hb).mono hmn⟩

theorem Collection.Sound.empty (bound : Nat) : Collection.empty.Sound bound :=
  ⟨.nil, by simp [Collection.empty], by simp [Collection.empty]⟩

theorem Building.floorNumbers_nodup (h : b.WellFormed) : b.floorNumbers.Nodup := by
  rw [h.floorNumbers_eq]
  exact List.nodup_range'

/-! ## Changes of one floor after the other -/

/-- What a floor turns into keeps its address and is sound. -/
structure Floor.TurnsInto (bound : Nat) (f g : Floor) : Prop where
  id_eq : g.id = f.id
  number_eq : g.number = f.number
  sound : g.Sound bound

theorem Floor.TurnsInto.refl (h : f.Sound n) : f.TurnsInto n f := ⟨rfl, rfl, h⟩

theorem map_eq_of_forall₂ {α β : Type} {r : α → α → Prop} {φ : α → β} {as bs : List α}
    (h : List.Forall₂ r as bs) (hr : ∀ a b, r a b → φ b = φ a) : bs.map φ = as.map φ := by
  induction h with
  | nil => rfl
  | cons hab _ ih => simp [hr _ _ hab, ih]

/-- A building stays sound when each of its floors turns into another. -/
theorem Building.Sound.replaceFloors (h : b.Sound m) (hmn : m ≤ n) {floors : List Floor}
    (hfloors : List.Forall₂ (Floor.TurnsInto n) b.floors floors) :
    Building.Sound n { b with floors } := by
  have hnumbers : floors.map (·.number) = b.floors.map (·.number) :=
    map_eq_of_forall₂ hfloors fun _ _ => Floor.TurnsInto.number_eq
  have hids : floors.map (·.id) = b.floors.map (·.id) :=
    map_eq_of_forall₂ hfloors fun _ _ => Floor.TurnsInto.id_eq
  refine ⟨?_, ?_, ?_, fun g hg => ?_⟩
  · rw [h.totalFloors_eq, hfloors.length_eq]
  · rw [floorNumbers, hnumbers, ← hfloors.length_eq]
    exact h.floorNumbers_eq
  · rw [hids]
    exact h.floorIds.mono fun _ => .mono hmn
  · obtain ⟨i, hi, rfl⟩ := List.mem_iff_getElem.1 hg
    exact (hfloors.get (hfloors.length_eq ▸ hi) hi).sound

theorem Building.Sound.mapFloors (h : b.Sound m) (hmn : m ≤ n) {edit : Floor → Floor}
    (hedit : ∀ f ∈ b.floors, f.Sound m → f.TurnsInto n (edit f)) :
    Building.Sound n { b with floors := b.floors.map edit } := by
  refine h.replaceFloors hmn ?_
  rw [List.forall₂_map_right_iff, List.forall₂_same]
  exact fun f hf => hedit f hf (h.floors f hf)

theorem Building.Sound.mapFloor (h : b.Sound m) (hmn : m ≤ n) {id : String}
    {edit : Floor → Floor} (hedit : ∀ f : Floor, f.Sound m → f.TurnsInto n (edit f)) :
    (b.mapFloor id edit).Sound n := by
  refine h.mapFloors hmn fun f _ hf => ?_
  split
  · exact hedit f hf
  · exact .refl (hf.mono hmn)

theorem Building.Sound.mapNumbered (h : b.Sound m) (hmn : m ≤ n) {number : Nat}
    {edit : Floor → Floor} (hedit : ∀ f : Floor, f.Sound m → f.TurnsInto n (edit f)) :
    (b.mapNumbered number edit).Sound n := by
  refine h.mapFloors hmn fun f _ hf => ?_
  split
  · exact hedit f hf
  · exact .refl (hf.mono hmn)

end Floorplan
