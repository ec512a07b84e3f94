import Floorplan.Proofs.Building.Edit
import Floorplan.Proofs.Intent.Fault

set_option autoImplicit false

/-! # Which floors are removed

Floors are removed from the top: they are put in the order of their numbers, as many as are asked for
are left out at the end, and the others are numbered anew. A saved building may hold its floors in any
order and several of one number, so the order of the numbers alone does not say which floors are left.
`StableOrder` does: floors of one number keep the order that they had, and there is only one such
order (`stableOrder_iff`). The main result is `Intent.removeFloorsFrom_eq_top`. -/

namespace Floorplan

/-! ## The order of the numbers -/

/-- The same floors in ascending order of their numbers, those of one number in the order that they
    had. -/
structure StableOrder (floors ordered : List Floor) : Prop where
  perm : ordered.Perm floors
  ascending : ordered.Pairwise fun f g => f.number ≤ g.number
  stable : ∀ n, (ordered.filter fun f => f.number = n) = floors.filter fun f => f.number = n

variable {f g : Floor} {floors ordered others : List Floor}

theorem stableOrder_mergeSort (floors : List Floor) :
    StableOrder floors (floors.mergeSort fun f g => f.number ≤ g.number) := by
  have htrans : ∀ f g h : Floor, decide (f.number ≤ g.number) = true →
      decide (g.number ≤ h.number) = true → decide (f.number ≤ h.number) = true := by
    simp only [decide_eq_true_eq]
    exact fun _ _ _ => le_trans
  have htotal : ∀ f g : Floor,
      (decide (f.number ≤ g.number) || decide (g.number ≤ f.number)) = true := by
    simp only [Bool.or_eq_true, decide_eq_true_eq]
    exact fun f g => le_total f.number g.number
  have hperm := floors.mergeSort_perm fun f g => decide (f.number ≤ g.number)
  refine ⟨hperm, ?_, fun n => ?_⟩
  · simpa only [decide_eq_true_eq] using List.pairwise_mergeSort htrans htotal floors
  · -- The floors of one number are in ascending order as they are, so sorting keeps them in a row.
    have hsame : (floors.filter fun f => f.number = n).Pairwise
        fun f g => decide (f.number ≤ g.number) = true := by
      refine List.pairwise_of_forall_mem_list fun f hf g hg => ?_
      simp only [List.mem_filter, decide_eq_true_eq] at hf hg ⊢
      rw [hf.2, hg.2]
    have hkept := (List.sublist_mergeSort htrans htotal hsame List.filter_sublist).filter
      fun f => decide (f.number = n)
    rw [List.filter_filter] at hkept
    simp only [Bool.and_self] at hkept
    exact (hkept.eq_of_length (hperm.filter _).length_eq.symm).symm

/-- Floors in ascending order are told by the floors of each number. -/
theorem eq_of_filter_number_eq (hordered : ordered.Pairwise fun f g => f.number ≤ g.number)
    (hothers : others.Pairwise fun f g => f.number ≤ g.number)
    (h : ∀ n, (ordered.filter fun f => f.number = n) = others.filter fun f => f.number = n) :
    ordered = others := by
  have hmem : ∀ {fs gs : List Floor},
      (∀ n, (fs.filter fun f => f.number = n) = gs.filter fun f => f.number = n) →
      ∀ f ∈ fs, f ∈ gs := by
    intro fs gs hsame f hf
    have hin : f ∈ fs.filter fun g => g.number = f.number := by simpa using hf
    rw [hsame f.number] at hin
    exact List.mem_of_mem_filter hin
  induction ordered generalizing others with
  | nil =>
    cases others with
    | nil => rfl
    | cons g gs => exact nomatch hmem (fun n => (h n).symm) g List.mem_cons_self
  | cons f fs ih =>
    cases others with
    | nil => exact nomatch hmem h f List.mem_cons_self
    | cons g gs =>
      obtain ⟨hfirst, hrest⟩ := List.pairwise_cons.1 hordered
      obtain ⟨hfirst', hrest'⟩ := List.pairwise_cons.1 hothers
      -- Each of the two first floors is among the others, and neither is above the other.
      have hle : g.number ≤ f.number := by
        rcases List.mem_cons.1 (hmem h f List.mem_cons_self) with heq | hf
        · rw [heq]
        · exact hfirst' f hf
      have hge : f.number ≤ g.number := by
        rcases List.mem_cons.1 (hmem (fun n => (h n).symm) g List.mem_cons_self) with heq | hg
        · rw [heq]
        · exact hfirst g hg
      have hnumber : g.number = f.number := le_antisymm hle hge
      have heq : f = g := by
        have hlist := h f.number
        rw [List.filter_cons_of_pos (by simp), List.filter_cons_of_pos (by simpa using hnumber)]
          at hlist
        exact (List.cons.inj hlist).1
      subst heq
      refine congrArg (f :: ·) (ih hrest hrest' fun n => ?_)
      have hlist := h n
      by_cases hn : f.number = n
      · rw [List.filter_cons_of_pos (by simpa using hn), List.filter_cons_of_pos (by simpa using hn)]
          at hlist
        exact (List.cons.inj hlist).2
      · rw [List.filter_cons_of_neg (by simpa using hn), List.filter_cons_of_neg (by simpa using hn)]
          at hlist
        exact hlist

/-- There is one such order, and sorting by number finds it. -/
theorem stableOrder_iff :
    StableOrder floors ordered ↔ ordered = floors.mergeSort fun f g => f.number ≤ g.number := by
  have hsorted := stableOrder_mergeSort floors
  constructor
  · intro h
    refine eq_of_filter_number_eq h.ascending hsorted.ascending fun n => ?_
    rw [h.stable n, hsorted.stable n]
  · rintro rfl
    exact hsorted

/-- What stands before a place has no greater number than what stands behind it. -/
theorem StableOrder.number_le (h : StableOrder floors ordered) {n : Nat} (hf : f ∈ ordered.take n)
    (hg : g ∈ ordered.drop n) : f.number ≤ g.number := by
  have hsplit := h.ascending
  rw [← List.take_append_drop n ordered] at hsplit
  exact (List.pairwise_append.1 hsplit).2.2 f hf g hg

/-! ## Numbering from one -/

/-- The floors with the numbers of their places, counted from one. -/
def numbered (floors : List Floor) : List Floor := floors.mapIdx fun i f => { f with number := i + 1 }

theorem mergeSort_of_ascending (h : floors.Pairwise fun f g => f.number ≤ g.number) :
    (floors.mergeSort fun f g => f.number ≤ g.number) = floors :=
  List.mergeSort_of_pairwise (by simpa only [decide_eq_true_eq] using h)

/-- Floors that are in order are numbered in the order that they have. -/
theorem renumber_of_ascending (h : floors.Pairwise fun f g => f.number ≤ g.number) :
    renumber floors = numbered floors := by
  rw [renumber, mergeSort_of_ascending h, numbered, List.mapIdx_eq_zipIdx_map]

/-! ## Removing floors -/

/-- **Which floors are removed, and what is left.** Of `n` floors as many are removed as are asked for,
    but not the last one. If none is to be removed the building stays and the reply says why. Otherwise
    those that come last in the order of the numbers go, none of which has a smaller number than one
    that stays; and those that stay are numbered from one and are the same otherwise. -/
theorem Intent.removeFloorsFrom_eq_top (b : Building) (count : Nat) :
    ∃ ordered, (∀ floors, StableOrder b.floors floors ↔ floors = ordered) ∧
      let removed := min count (b.floors.length - 1)
      let left := b.floors.length - removed
      (∀ f ∈ ordered.take left, ∀ g ∈ ordered.drop left, f.number ≤ g.number) ∧
      removeFloorsFrom b count =
        if removed = 0 then .ok (none, .lastFloor)
        else .ok
          (some
            { id := b.id
              name := b.name
              totalFloors := left
              floors := numbered (ordered.take left) },
           .floorsRemoved removed left) := by
  have horder := stableOrder_mergeSort b.floors
  refine ⟨_, fun floors => stableOrder_iff, fun f hf g hg => horder.number_le hf hg, ?_⟩
  have hrenumber := renumber_of_ascending
    (horder.ascending.sublist (List.take_sublist (b.floors.length - min count (b.floors.length - 1)) _))
  rw [removeFloorsFrom_eq]
  simp only [shortened, hrenumber, Building.synced]
  split
  · rfl
  · have hlength : (numbered ((b.floors.mergeSort fun f g => f.number ≤ g.number).take
        (b.floors.length - min count (b.floors.length - 1)))).length
        = b.floors.length - min count (b.floors.length - 1) := by
      rw [numbered, List.length_mapIdx, List.length_take, List.length_mergeSort]
      omega
    rw [hlength]

end Floorplan
