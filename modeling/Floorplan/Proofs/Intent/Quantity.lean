import Floorplan.Proofs.Intent.Effect

set_option autoImplicit false

/-! # How much an addition adds

A building is measured by how many components of a kind each of its floors has. An addition to a floor
or to all floors changes that number on those floors only, and new floors are put behind the others
with two of each kind. The number of floors that a building reports goes along with its floors. -/

namespace Floorplan

variable {clock : Clock} {s s' : Stamps} {b b' : Building}

/-- How many components of a kind each floor has. -/
def Building.counts (b : Building) (kind : ComponentKind) : List Nat := b.floors.map kind.countOn

namespace Intent

theorem countOn_appendComponents (f : Floor) (kind k : ComponentKind) (count : Nat) (clock : Clock)
    (s : Stamps) :
    k.countOn (f.appendComponents kind count clock s).1
      = k.countOn f + if k = kind then count else 0 := by
  cases kind <;> cases k <;>
    simp [ComponentKind.countOn, Floor.appendComponents, Floor.appendRestrooms,
      Floor.appendCorridors]

theorem map_countOn_appendToEach (kind k : ComponentKind) (count : Nat) (clock : Clock)
    (floors : List Floor) (s : Stamps) :
    (appendToEach kind count clock floors s).1.map k.countOn
      = floors.map fun f => k.countOn f + if k = kind then count else 0 := by
  induction floors generalizing s with
  | nil => rfl
  | cons f floors ih =>
    simp only [appendToEach, List.map_cons]
    rw [countOn_appendComponents, ih]

theorem counts_appendEverywhere (b : Building) (kind k : ComponentKind) (count : Nat)
    (clock : Clock) (s : Stamps) :
    (appendEverywhere b kind count clock s).1.counts k
      = (b.counts k).map (· + if k = kind then count else 0) := by
  rw [Building.counts, Building.counts, List.map_map]
  exact map_countOn_appendToEach kind k count clock b.floors s

theorem counts_appendFloors (b : Building) (count : Nat) (clock : Clock) (s : Stamps)
    (kind : ComponentKind) :
    (b.appendFloors count clock s).1.counts kind = b.counts kind ++ List.replicate count 2 := by
  have hdefault : ∀ id number, kind.countOn (Floor.generateDefault id number) = 2 := by
    intro id number
    cases kind <;> rfl
  simp only [Building.counts, Building.appendFloors, Building.synced, List.map_append,
    List.map_map, Function.comp_def, hdefault, List.map_const', List.length_zipIdx,
    Stamps.length_draw]

/-! ## Combined additions -/

/-- No quantity and the quantity zero ask for nothing. -/
theorem getD_of_positive?_eq_none {count : Option Nat} (h : positive? count = none) :
    count.getD 0 = 0 := by
  cases count with
  | none => rfl
  | some n => simpa [positive?, Option.filter] using h

theorem eq_of_positive?_eq_some {count : Option Nat} {n : Nat} (h : positive? count = some n) :
    count = some n := (Option.filter_eq_some_iff.1 h).1

/-- What the part of a combined addition for floors makes of a building. -/
theorem growFloors_eq {count : Option Nat} {said : List String}
    (h : growFloors b count clock s = ((b', said), s')) :
    (∀ kind, b'.counts kind = b.counts kind ++ List.replicate (count.getD 0) 2) ∧
      (b.totalFloors = b.floors.length → b'.totalFloors = b'.floors.length) ∧
      said = (positive? count).toList.map (counted · "floor") := by
  unfold growFloors at h
  split at h
  · rename_i hnone
    cases h
    rw [getD_of_positive?_eq_none hnone, hnone]
    exact ⟨fun kind => by simp, id, rfl⟩
  · rename_i n hn
    cases h
    rw [hn, eq_of_positive?_eq_some hn]
    exact ⟨fun kind => counts_appendFloors b n clock s kind, fun _ => rfl, rfl⟩

/-- What the part of a combined addition for a kind of component makes of a building. -/
theorem growComponents_eq {kind : ComponentKind} {count : Option Nat} {said : List String}
    (h : growComponents b kind count clock s = ((b', said), s')) :
    (∀ k, b'.counts k = (b.counts k).map (· + if k = kind then count.getD 0 else 0)) ∧
      b'.totalFloors = b.totalFloors ∧
      said = (positive? count).toList.map (counted · kind.noun ++ " to each floor") := by
  unfold growComponents at h
  split at h
  · rename_i hnone
    cases h
    rw [getD_of_positive?_eq_none hnone, hnone]
    exact ⟨fun k => by simp, rfl, rfl⟩
  · rename_i n hn
    cases h
    rw [hn, eq_of_positive?_eq_some hn]
    exact ⟨fun k => counts_appendEverywhere b kind k n clock s, rfl, rfl⟩

end Intent

theorem Building.length_counts (b : Building) (kind : ComponentKind) :
    (b.counts kind).length = b.floors.length := List.length_map _

end Floorplan
