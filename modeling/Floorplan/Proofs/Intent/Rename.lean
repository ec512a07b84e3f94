import Floorplan.Intent.Apply
import Mathlib.Data.List.Forall2

set_option autoImplicit false

/-! # Renaming by position

Names are given to the items at their places, and to one item at a place. Either way there are as many
items afterwards, in their order, and nothing but names is different. -/

namespace Floorplan.Intent

variable {α β : Type} {setName : α → String → α}

theorem length_renamePositional (items : List α) (names : List String) :
    (renamePositional setName items names).length = items.length := by
  induction items generalizing names with
  | nil => rfl
  | cons a items ih =>
    cases names with
    | nil => rfl
    | cons n names => simp only [renamePositional, List.length_cons, ih]

/-- Renaming by position leaves alone what names do not occur in. -/
theorem map_renamePositional {φ : α → β} (hφ : ∀ a n, φ (setName a n) = φ a) (items : List α)
    (names : List String) : (renamePositional setName items names).map φ = items.map φ := by
  induction items generalizing names with
  | nil => rfl
  | cons a items ih =>
    cases names with
    | nil => rfl
    | cons n names =>
      simp only [renamePositional, List.map_cons, ih]
      split
      · rfl
      · rw [hφ]

theorem forall₂_renamePositional {r : α → α → Prop} {items : List α} (hrefl : ∀ a ∈ items, r a a)
    (hset : ∀ a ∈ items, ∀ n, r a (setName a n)) (names : List String) :
    List.Forall₂ r items (renamePositional setName items names) := by
  induction items generalizing names with
  | nil => exact .nil
  | cons a items ih =>
    obtain ⟨ha, hrefl⟩ := List.forall_mem_cons.1 hrefl
    obtain ⟨hseta, hset⟩ := List.forall_mem_cons.1 hset
    cases names with
    | nil => exact .cons ha (List.forall₂_same.2 hrefl)
    | cons n names =>
      refine .cons ?_ (ih hrefl hset names)
      split
      · exact ha
      · exact hseta n

/-- An edit at one place leaves alone what it does not touch. -/
theorem map_modify {edit : α → α} {φ : α → β} (hφ : ∀ a, φ (edit a) = φ a) (items : List α)
    (slot : Nat) : (items.modify slot edit).map φ = items.map φ := by
  apply List.ext_getElem (by simp)
  intro i _ _
  simp only [List.getElem_map, List.getElem_modify]
  split
  · rw [hφ]
  · rfl

/-! ## The names that are given -/

/-- The name that is given to the item at a place, if there is one that is not empty. -/
def nameAt? (names : List String) (i : Nat) : Option String := names[i]?.filter fun n => !n.isEmpty

/-- Each item has the name that is given to its place, and stays as it is if there is none. -/
theorem getElem?_renamePositional (setName : α → String → α) (items : List α)
    (names : List String) (i : Nat) :
    (renamePositional setName items names)[i]?
      = items[i]?.map fun a => ((nameAt? names i).map (setName a)).getD a := by
  induction items generalizing names i with
  | nil => rfl
  | cons a items ih =>
    cases names with
    | nil =>
      have hnone : nameAt? [] i = none := rfl
      simp [renamePositional, hnone]
    | cons n names =>
      cases i with
      | zero =>
        simp only [renamePositional, nameAt?, List.getElem?_cons_zero, Option.map_some,
          Option.filter_some]
        cases n.isEmpty <;> rfl
      | succ i =>
        simp only [renamePositional, List.getElem?_cons_succ, ih]
        rfl

/-- What is counted as renamed are the places for which a name is given. -/
theorem renamedCount_eq (items : Nat) (names : List String) :
    renamedCount items names
      = ((List.range items).filter fun i => (nameAt? names i).isSome).length := by
  induction items generalizing names with
  | zero => rfl
  | succ items ih =>
    cases names with
    | nil =>
      have hnone : ∀ i, (nameAt? [] i).isSome = false := fun _ => rfl
      simp [renamedCount, hnone]
    | cons n names =>
      have hfirst : (nameAt? (n :: names) 0).isSome = !n.isEmpty := by
        simp only [nameAt?, List.getElem?_cons_zero, Option.filter_some]
        cases n.isEmpty <;> rfl
      have hrest : ((List.range items).map (· + 1)).filter
          (fun i => (nameAt? (n :: names) i).isSome)
          = ((List.range items).filter fun i => (nameAt? names i).isSome).map (· + 1) :=
        List.filter_map
      have htail := ih names
      rw [renamedCount] at htail
      rw [List.range_succ_eq_map, List.filter_cons, hfirst, hrest, renamedCount,
        List.take_succ_cons, List.filter_cons]
      split <;> simp [htail]

theorem namesOn_renamedOn (kind : ComponentKind) (f : Floor) (names : List String) (i : Nat) :
    (namesOn kind (renamedOn kind f names))[i]?
      = (namesOn kind f)[i]?.map fun n => (nameAt? names i).getD n := by
  cases kind <;>
    · simp only [namesOn, renamedOn, List.getElem?_map, getElem?_renamePositional, Option.map_map]
      congr 1
      funext a
      cases nameAt? names i <;> rfl

theorem map_modify_eq_set {edit : α → α} {φ : α → β} {b : β} (hφ : ∀ a, φ (edit a) = b)
    (items : List α) (slot : Nat) : (items.modify slot edit).map φ = (items.map φ).set slot b := by
  apply List.ext_getElem (by simp)
  intro i _ _
  simp only [List.getElem_map, List.getElem_modify, List.getElem_set]
  split
  · rw [hφ]
  · rfl

theorem namesOn_renamedAt (kind : ComponentKind) (slot : Nat) (name : String) (f : Floor) :
    namesOn kind (renamedAt kind slot name f) = (namesOn kind f).set slot name := by
  cases kind with
  | restroom =>
    refine map_modify_eq_set ?_ f.restrooms slot
    exact fun _ => rfl
  | corridor =>
    refine map_modify_eq_set ?_ f.corridors slot
    exact fun _ => rfl

theorem number_renamedOn (kind : ComponentKind) (f : Floor) (names : List String) :
    (renamedOn kind f names).number = f.number := by
  cases kind <;> rfl

theorem number_renamedAt (kind : ComponentKind) (slot : Nat) (name : String) (f : Floor) :
    (renamedAt kind slot name f).number = f.number := by
  cases kind <;> rfl

end Floorplan.Intent
