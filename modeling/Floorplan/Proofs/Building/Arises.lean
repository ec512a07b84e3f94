import Floorplan.Proofs.Building.Edit

set_option autoImplicit false

/-! # Where what is in a building comes from

What an operation leaves in a building, of whatever sort, comes from something that was there, or it is
new. `Arises` says so of two lists, with what may become of a thing and what a new one is like as
parameters. Lists that are read off a building floor by floor, or off a collection building by building,
arise part by part; so it is enough to know what an operation does to a single floor. That an edit is
made to all floors of an id does not matter here: what takes the place of another still comes from one
that was there. -/

namespace Floorplan

/-- Each thing comes from one that was there, or is new. -/
def Arises {α : Type} (new : α → Prop) (r : α → α → Prop) (xs ys : List α) : Prop :=
  ∀ y ∈ ys, new y ∨ ∃ x ∈ xs, r x y

namespace Arises

variable {α β : Type} {new new' : α → Prop} {r r' : α → α → Prop} {xs ys : List α}

theorem refl (hr : ∀ x, r x x) (xs : List α) : Arises new r xs xs :=
  fun x hx => Or.inr ⟨x, hx, hr x⟩

theorem of_eq (hr : ∀ x, r x x) (h : ys = xs) : Arises new r xs ys := by
  rw [h]
  exact refl hr xs

theorem mono (hnew : ∀ x, new x → new' x) (hr : ∀ x y, r x y → r' x y) (h : Arises new r xs ys) :
    Arises new' r' xs ys := fun y hy =>
  (h y hy).imp (hnew y) fun ⟨x, hx, hxy⟩ => ⟨x, hx, hr x y hxy⟩

/-- Things arise part by part: what a part holds is new, or comes from a part that was there. -/
theorem flatMap {f : β → List α} {as bs : List β}
    (h : ∀ b ∈ bs, (∀ y ∈ f b, new y) ∨ ∃ a ∈ as, Arises new r (f a) (f b)) :
    Arises new r (as.flatMap f) (bs.flatMap f) := by
  intro y hy
  obtain ⟨b, hb, hy⟩ := List.mem_flatMap.1 hy
  rcases h b hb with hnew | ⟨a, ha, hold⟩
  · exact Or.inl (hnew y hy)
  · exact (hold y hy).imp_right fun ⟨x, hx, hxy⟩ => ⟨x, List.mem_flatMap.2 ⟨a, ha, hx⟩, hxy⟩

/-! ## In buildings -/

section Floors

variable {f : Floor → List α} {floors : List Floor}

/-- Some floors are edited, or others are put in their places. -/
theorem map_floors (hr : ∀ x, r x x) {p : Floor → Prop} [DecidablePred p] {edit : Floor → Floor}
    (h : ∀ g ∈ floors, p g → ∃ g' ∈ floors, Arises new r (f g') (f (edit g))) :
    Arises new r (floors.flatMap f)
      ((floors.map fun g => if p g then edit g else g).flatMap f) := by
  refine flatMap (List.forall_mem_map.2 fun g hg => Or.inr ?_)
  split
  · rename_i hp
    exact h g hg hp
  · exact ⟨g, hg, refl hr _⟩

theorem appendFloors (hr : ∀ x, r x x)
    (hnew : ∀ id number, ∀ y ∈ f (Floor.generateDefault id number), new y) (b : Building)
    (count : Nat) (clock : Clock) (s : Stamps) :
    Arises new r (b.floors.flatMap f) ((b.appendFloors count clock s).1.floors.flatMap f) := by
  refine flatMap fun g hg => ?_
  rcases List.mem_append.1 hg with hg | hg
  · exact Or.inr ⟨g, hg, refl hr _⟩
  · obtain ⟨x, -, rfl⟩ := List.mem_map.1 hg
    exact Or.inl (hnew _ _)

theorem renumber (hr : ∀ x, r x x) (hnumber : ∀ g k, f { g with number := k } = f g)
    {kept : List Floor} (hkept : ∀ g ∈ kept, g ∈ floors) :
    Arises new r (floors.flatMap f) ((Floorplan.renumber kept).flatMap f) := by
  refine flatMap fun g hg => Or.inr ?_
  obtain ⟨old, hold, number, rfl⟩ := mem_renumber hg
  exact ⟨old, hkept old hold, of_eq hr (hnumber old number)⟩

end Floors

/-! ## In collections -/

variable {f : Building → List α} {c : Collection} {b b' : Building}

/-- A building is put in the place of others. -/
theorem withBuilding (hr : ∀ x, r x x) (hb : b ∈ c.buildings) (h : Arises new r (f b) (f b')) :
    Arises new r (c.buildings.flatMap f) ((c.withBuilding b').buildings.flatMap f) := by
  refine flatMap (List.forall_mem_map.2 fun x hx => Or.inr ?_)
  split
  · exact ⟨b, hb, h⟩
  · exact ⟨x, hx, refl hr _⟩

theorem withNewActive (hr : ∀ x, r x x) (c : Collection) (hnew : ∀ y ∈ f b, new y) :
    Arises new r (c.buildings.flatMap f) ((c.withNewActive b).buildings.flatMap f) := by
  refine flatMap (List.forall_mem_append.2 ⟨fun x hx => Or.inr ⟨x, hx, refl hr _⟩, ?_⟩)
  exact List.forall_mem_singleton.2 (Or.inl hnew)

end Arises

end Floorplan
