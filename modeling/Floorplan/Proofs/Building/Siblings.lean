import Floorplan.Proofs.Building.Arises
import Floorplan.Proofs.Building.Grid
import Floorplan.Proofs.Building.Plan

set_option autoImplicit false

/-! # Siblings and their places

The restrooms of a floor, its corridors, and the lifts of a corridor are siblings, and each owner has a
row of places for its siblings. What is generated in one go takes the places of the row from the first
on. What is added later takes the place whose index is the number of siblings that are there, and what
is removed leaves a gap. So siblings become others in two ways only: they thin out or they grow at the
end (`Siblings.Follows`).

Growing is where two of them can come to stand on one place: if a gap was left, the place after the last
may be taken. `Siblings.arises_apart_iff` says that this is all that can happen. -/

namespace Floorplan

/-! ## Siblings -/

/-- What siblings belong to. -/
inductive Owner where
  | restrooms (building floor : String)
  | corridors (building floor : String)
  /-- The lifts of a corridor at a height. -/
  | lifts (building floor corridor : String) (y : Binary64)
  deriving DecidableEq

/-- The building and the floor that siblings are on. -/
def Owner.address : Owner → String × String
  | restrooms building floor | corridors building floor | lifts building floor _ _ =>
    (building, floor)

/-- The place for the sibling with an index. -/
def Owner.place : Owner → Nat → Position
  | restrooms .. => restroomPosition
  | corridors .. => corridorPosition
  | lifts _ _ _ y => (liftPosition · y)

theorem Owner.place_inj (o : Owner) {i j : Nat} (hi : i < 2 ^ 40) (hj : j < 2 ^ 40)
    (h : o.place i = o.place j) : i = j := by
  cases o with
  | restrooms => exact restroomPosition_inj hi hj h
  | corridors => exact corridorPosition_inj hi hj h
  | lifts => exact liftPosition_inj hi hj h

/-- The places at which the siblings of an owner stand, in their order. -/
structure Siblings where
  owner : Owner
  positions : List Position
  deriving DecidableEq

/-- The lifts of a corridor. -/
def Corridor.siblings (building floor : String) (c : Corridor) : Siblings :=
  ⟨.lifts building floor c.id c.position.y, c.lifts.map (·.position)⟩

/-- The siblings on a floor. -/
def Floor.siblings (building : String) (f : Floor) : List Siblings :=
  ⟨.restrooms building f.id, f.restrooms.map (·.position)⟩ ::
    ⟨.corridors building f.id, f.corridors.map (·.position)⟩ ::
    f.corridors.map (·.siblings building f.id)

/-- The siblings in a building. -/
def Building.siblings (b : Building) : List Siblings := b.floors.flatMap (·.siblings b.id)

/-- The siblings in all buildings. -/
def Collection.siblings (c : Collection) : List Siblings := c.buildings.flatMap Building.siblings

namespace Siblings

variable {x y z : Siblings} {xs ys zs : List Siblings} {k m n : Nat}

/-! ## How siblings come about -/

/-- The siblings stand on the first places of the row, at most as many as the bound. -/
def Fresh (bound : Nat) (x : Siblings) : Prop :=
  ∃ n ≤ bound, x.positions = (List.range n).map x.owner.place

/-- Some of the siblings are left. -/
def Thins (x y : Siblings) : Prop := y.owner = x.owner ∧ y.positions.Sublist x.positions

/-- Siblings are added, at most as many as the bound. They take the places from the number of those that
    are there on. -/
def Grows (bound : Nat) (x y : Siblings) : Prop :=
  y.owner = x.owner ∧ ∃ n ≤ bound,
    y.positions = x.positions ++ (List.range' x.positions.length n).map x.owner.place

/-- What siblings can become in one step. -/
def Follows (x y : Siblings) : Prop := x.Thins y ∨ ∃ bound, x.Grows bound y

theorem Fresh.mono (hkm : k ≤ m) (h : x.Fresh k) : x.Fresh m := by
  obtain ⟨n, hn, hpositions⟩ := h
  exact ⟨n, hn.trans hkm, hpositions⟩

theorem Grows.mono (hkm : k ≤ m) (h : x.Grows k y) : x.Grows m y := by
  obtain ⟨howner, n, hn, hpositions⟩ := h
  exact ⟨howner, n, hn.trans hkm, hpositions⟩

theorem Thins.refl (x : Siblings) : x.Thins x := ⟨rfl, List.Sublist.refl _⟩

theorem Grows.refl (bound : Nat) (x : Siblings) : x.Grows bound x :=
  ⟨rfl, 0, Nat.zero_le _, by simp⟩

theorem Grows.trans (h : x.Grows m y) (h' : y.Grows n z) : x.Grows (m + n) z := by
  obtain ⟨howner, i, hi, hy⟩ := h
  obtain ⟨howner', j, hj, hz⟩ := h'
  refine ⟨howner'.trans howner, i + j, Nat.add_le_add hi hj, ?_⟩
  rw [hz, howner, hy, List.append_assoc, ← List.map_append, List.length_append, List.length_map,
    List.length_range', List.range'_append_1]

theorem Follows.refl (x : Siblings) : x.Follows x := Or.inl (.refl x)

theorem Follows.thins (h : x.Thins y) : x.Follows y := Or.inl h

theorem Follows.grows (h : x.Grows k y) : x.Follows y := Or.inr ⟨k, h⟩

/-- What was fresh and grows might have been made in one go. -/
theorem Fresh.grows (h : x.Fresh k) (h' : x.Grows m y) : y.Fresh (k + m) := by
  obtain ⟨i, hi, hx⟩ := h
  obtain ⟨howner, j, hj, hy⟩ := h'
  refine ⟨i + j, Nat.add_le_add hi hj, ?_⟩
  have hlength : x.positions.length = i := by rw [hx, List.length_map, List.length_range]
  rw [hy, howner, hlength, hx, ← List.map_append, List.range_eq_range', List.range_eq_range',
    ← List.range'_append_1, Nat.zero_add]

/-- What grows twice has grown, and the bounds add up. -/
theorem arises_trans (h : Arises (Fresh k) (Grows m) xs ys)
    (h' : Arises (Fresh (k + n)) (Grows n) ys zs) : Arises (Fresh (k + n)) (Grows (m + n)) xs zs := by
  intro z hz
  rcases h' z hz with hfresh | ⟨y, hy, hyz⟩
  · exact Or.inl hfresh
  · rcases h y hy with hfresh | ⟨x, hx, hxy⟩
    · exact Or.inl (hfresh.grows hyz)
    · exact Or.inr ⟨x, hx, hxy.trans hyz⟩

/-! ## Standing apart -/

/-- No two siblings stand on one place. -/
def Apart (xs : List Siblings) : Prop := ∀ x ∈ xs, x.positions.Nodup

instance (xs : List Siblings) : Decidable (Apart xs) :=
  inferInstanceAs (Decidable (∀ x ∈ xs, x.positions.Nodup))

/-- Siblings grow, and one that is added is given a place at which another one stands by then. -/
def Crowds (xs ys : List Siblings) : Prop :=
  ∃ x ∈ xs, ∃ y ∈ ys, y.owner = x.owner ∧ ∃ i < y.positions.length,
    x.positions.length ≤ i ∧ ∃ p ∈ y.positions.take i, p = y.owner.place i

instance (xs ys : List Siblings) : Decidable (Crowds xs ys) :=
  inferInstanceAs (Decidable (∃ x ∈ xs, ∃ y ∈ ys, _ ∧ ∃ i < y.positions.length, _ ∧ _))

/-- In a list without duplicates nothing occurs before its place. -/
theorem nodup_iff_take {α : Type} {l : List α} :
    l.Nodup ↔ ∀ (i : Nat) (h : i < l.length), l[i] ∉ l.take i := by
  simp only [List.Nodup, List.pairwise_iff_getElem, List.mem_take_iff_getElem]
  constructor
  · rintro hne i hi ⟨j, hj, heq⟩
    exact hne j i (by omega) hi (by omega) heq
  · intro hnew i j hi hj hij heq
    exact hnew j hj ⟨i, by omega, heq⟩

/-- Fresh siblings stand apart, unless there are very many of them. -/
theorem Fresh.nodup (h : x.Fresh k) (hk : k ≤ 2 ^ 40) : x.positions.Nodup := by
  obtain ⟨n, hn, hpositions⟩ := h
  rw [hpositions]
  refine List.Nodup.map_on (fun i hi j hj hplace => ?_) List.nodup_range
  have hlt := List.mem_range.1 hi
  have hlt' := List.mem_range.1 hj
  exact x.owner.place_inj (by omega) (by omega) hplace

theorem Fresh.getElem (h : x.Fresh k) {i : Nat} (hi : i < x.positions.length) :
    x.positions[i] = x.owner.place i := by
  obtain ⟨n, -, hpositions⟩ := h
  simp [hpositions]

/-- What is added stands at the place of its index. -/
theorem Grows.getElem (h : x.Grows k y) {i : Nat} (hi : i < y.positions.length)
    (hnew : x.positions.length ≤ i) : y.positions[i] = y.owner.place i := by
  obtain ⟨howner, n, -, hpositions⟩ := h
  have hsum : x.positions.length + (i - x.positions.length) = i := by omega
  simp [hpositions, List.getElem_append_right hnew, howner, hsum]

/-- What was there stays where it is. -/
theorem Grows.getElem_notMem (h : x.Grows k y) (hx : x.positions.Nodup) {i : Nat}
    (hi : i < y.positions.length) (hold : i < x.positions.length) :
    y.positions[i] ∉ y.positions.take i := by
  obtain ⟨-, n, -, hpositions⟩ := h
  have hfirst := nodup_iff_take.1 hx i hold
  simpa [hpositions, List.getElem_append_left hold, List.take_append_of_le_length hold.le] using hfirst

/-- **When siblings stay apart.** If they stood apart before a step, they stand apart after it if and
    only if none is added on a place at which another one stands. -/
theorem arises_apart_iff (h : Arises (Fresh k) Follows xs ys) (hk : k ≤ 2 ^ 40)
    (howners : ∀ x ∈ xs, ∀ y ∈ xs, y.owner = x.owner → y = x) (hxs : Apart xs) :
    Apart ys ↔ ¬ Crowds xs ys := by
  constructor
  · -- Whatever has come of the siblings of an owner, what was added stands on the place of its index.
    rintro hys ⟨x, hx, y, hy, howner, i, hi, hnew, _, htaken, rfl⟩
    have hfree := nodup_iff_take.1 (hys y hy) i hi
    rcases h y hy with hfresh | ⟨x', hx', hthins | ⟨m, hgrows⟩⟩
    · rw [hfresh.getElem hi] at hfree
      exact hfree htaken
    · obtain rfl : x' = x := howners x hx x' hx' (hthins.1.symm.trans howner)
      have hle := hthins.2.length_le
      omega
    · obtain rfl : x' = x := howners x hx x' hx' (hgrows.1.symm.trans howner)
      rw [hgrows.getElem hi hnew] at hfree
      exact hfree htaken
  · -- Fresh siblings stand apart and thinning keeps them apart, so it is for growing to do harm.
    intro hfree y hy
    rcases h y hy with hfresh | ⟨x, hx, hthins | ⟨m, hgrows⟩⟩
    · exact hfresh.nodup hk
    · exact (hxs x hx).sublist hthins.2
    · refine nodup_iff_take.2 fun i hi => ?_
      by_cases hold : i < x.positions.length
      · exact hgrows.getElem_notMem (hxs x hx) hi hold
      · intro htaken
        rw [hgrows.getElem hi (by omega)] at htaken
        exact hfree ⟨x, hx, y, hy, hgrows.1, i, hi, by omega, _, htaken, rfl⟩

end Siblings

end Floorplan
