import Floorplan.Building.Stamp
import Floorplan.Intent.Apply
import Mathlib.Data.List.Nodup
import Mathlib.Order.Lattice
import Std.Data.String.ToNat

set_option autoImplicit false

/-! # The ids that have been issued

An id is its owner's id, a word and a number. Things made together with their owner are counted from
one, things added later have a stamp, and a floor that is added later has its floor number in front of
the stamp. Counts stay within the largest quantity of a request, so once the clock is past that number
of milliseconds a stamp is neither a count nor an earlier stamp.

`Stamps.high` bounds every number in an issued id. `Series` says that a list of ids is distinct and
issued; a series stays one when ids with later numbers are put behind it
(`Series.append`). -/

namespace Floorplan

/-! ## Stamps -/

/-- Every reading of the clock is greater than `t`. -/
def Clock.IsPast (clock : Clock) (t : Nat) : Prop := ∀ n, t < clock.reading n

@[simp] theorem Clock.isPast_still {now t : Nat} : (Clock.still now).IsPast t ↔ t < now :=
  ⟨fun h => h 0, fun h _ => h⟩

/-- The largest number that an id may hold by now: a count, or a stamp. -/
def Stamps.high (s : Stamps) : Nat := max Intent.maxQuantity s.last

namespace Stamps

theorem maxQuantity_le_high (s : Stamps) : Intent.maxQuantity ≤ s.high := le_max_left ..

theorem last_le_high (s : Stamps) : s.last ≤ s.high := le_max_right ..

theorem high_lt_next {clock : Clock} (h : clock.IsPast Intent.maxQuantity) (s : Stamps) :
    s.high < (s.next clock).1 := by
  have := h s.last
  simp only [high, next]
  omega

theorem high_next {clock : Clock} (h : clock.IsPast Intent.maxQuantity) (s : Stamps) :
    (s.next clock).2.high = (s.next clock).1 := by
  have := h s.last
  simp only [high, next]
  omega

theorem high_le_next {clock : Clock} (h : clock.IsPast Intent.maxQuantity) (s : Stamps) :
    s.high ≤ (s.next clock).2.high := by
  rw [high_next h]
  exact (high_lt_next h s).le

theorem draw_succ (s : Stamps) (clock : Clock) (n : Nat) :
    s.draw clock (n + 1) = ((s.next clock).1 :: ((s.next clock).2.draw clock n).1,
      ((s.next clock).2.draw clock n).2) := rfl

@[simp] theorem length_draw (s : Stamps) (clock : Clock) (n : Nat) :
    (s.draw clock n).1.length = n := by
  induction n generalizing s with
  | zero => rfl
  | succ n ih => simp [draw_succ, ih]

theorem high_le_draw {clock : Clock} (h : clock.IsPast Intent.maxQuantity) (s : Stamps) (n : Nat) :
    s.high ≤ (s.draw clock n).2.high := by
  induction n generalizing s with
  | zero => exact le_rfl
  | succ n ih => exact (high_le_next h s).trans (ih (s.next clock).2)

/-- Drawn stamps are greater than every number issued before, and not greater than those issued
    by then. -/
theorem mem_draw {clock : Clock} (h : clock.IsPast Intent.maxQuantity) {s : Stamps} {n x : Nat}
    (hx : x ∈ (s.draw clock n).1) : s.high < x ∧ x ≤ (s.draw clock n).2.high := by
  induction n generalizing s with
  | zero => simp [draw] at hx
  | succ n ih =>
    rw [draw_succ] at hx ⊢
    rcases List.mem_cons.1 hx with rfl | hx
    · refine ⟨high_lt_next h s, ?_⟩
      rw [← high_next h]
      exact high_le_draw h (s.next clock).2 n
    · obtain ⟨hlt, hle⟩ := ih hx
      exact ⟨(high_le_next h s).trans_lt hlt, hle⟩

theorem nodup_draw {clock : Clock} (h : clock.IsPast Intent.maxQuantity) (s : Stamps) (n : Nat) :
    (s.draw clock n).1.Nodup := by
  induction n generalizing s with
  | zero => simp [draw]
  | succ n ih =>
    rw [draw_succ]
    refine List.nodup_cons.2 ⟨fun hmem => ?_, ih (s.next clock).2⟩
    have hlt := (mem_draw h hmem).1
    rw [high_next h] at hlt
    exact lt_irrefl _ hlt

end Stamps

/-! ## The shapes of ids -/

theorem append_toString_inj {owner : String} {m n : Nat} :
    owner ++ toString m = owner ++ toString n ↔ m = n := by
  rw [String.append_right_inj]
  exact Nat.repr_inj

theorem dash_notMem_digits (n : Nat) : '-' ∉ Nat.toDigits 10 n := by
  intro h
  have := Nat.isDigit_of_mem_toDigits (by decide) (by decide) h
  simp [Char.isDigit] at this

/-- The id is the owner's and a number up to a bound. -/
def Numbered (owner : String) (bound : Nat) (id : String) : Prop :=
  ∃ k ≤ bound, id = owner ++ toString k

/-- The id is that of a floor of the building: with a count, or with a number and a stamp up to a
    bound. -/
def NumberedFloor (building : String) (bound : Nat) (id : String) : Prop :=
  (∃ k : Nat, id = building ++ "-floor-" ++ toString k) ∨
    ∃ k : Nat, ∃ s ≤ bound, id = building ++ "-floor-" ++ toString k ++ "-" ++ toString s

theorem Numbered.mono {owner id : String} {m n : Nat} (hmn : m ≤ n) (h : Numbered owner m id) :
    Numbered owner n id := by
  obtain ⟨k, hk, rfl⟩ := h
  exact ⟨k, hk.trans hmn, rfl⟩

theorem NumberedFloor.mono {building id : String} {m n : Nat} (hmn : m ≤ n)
    (h : NumberedFloor building m id) : NumberedFloor building n id := by
  rcases h with h | ⟨k, s, hs, rfl⟩
  · exact Or.inl h
  · exact Or.inr ⟨k, s, hs.trans hmn, rfl⟩

theorem not_numbered_of_lt {owner : String} {bound k : Nat} (h : bound < k) :
    ¬ Numbered owner bound (owner ++ toString k) := by
  rintro ⟨j, hj, heq⟩
  have := append_toString_inj.1 heq
  omega

/-- Whatever the floor numbers are, floors with different stamps have different ids. -/
theorem floorId_stamp_inj {building : String} {j k s t : Nat}
    (h : building ++ "-floor-" ++ toString j ++ "-" ++ toString s
      = building ++ "-floor-" ++ toString k ++ "-" ++ toString t) : s = t := by
  have hlist := congrArg String.toList h
  simp only [String.toList_append, List.append_assoc, List.append_cancel_left_eq,
    Nat.toString_eq_repr, Nat.toList_repr] at hlist
  -- The stamp is what stands behind the only dash, because there is none among the digits.
  have hdash : Nat.toDigits 10 j ++ '-' :: Nat.toDigits 10 s
      = Nat.toDigits 10 k ++ '-' :: Nat.toDigits 10 t := hlist
  have hdigits : Nat.toDigits 10 s = Nat.toDigits 10 t :=
    ((List.append_cons_inj_of_notMem (dash_notMem_digits j) (dash_notMem_digits s)).1 hdash).2.2
  apply Nat.repr_injective
  rw [Nat.repr_eq_ofList_toDigits, Nat.repr_eq_ofList_toDigits, hdigits]

/-- A counted floor and a stamped one have different ids. -/
theorem floorId_counted_ne_stamped (building : String) (j k s : Nat) :
    building ++ "-floor-" ++ toString k ++ "-" ++ toString s
      ≠ building ++ "-floor-" ++ toString j := by
  intro h
  have hlist := congrArg String.toList h
  simp only [String.toList_append, List.append_assoc, List.append_cancel_left_eq,
    Nat.toString_eq_repr, Nat.toList_repr] at hlist
  refine dash_notMem_digits j ?_
  rw [← hlist]
  simp

theorem not_numberedFloor_of_lt {building : String} {bound k s : Nat} (h : bound < s) :
    ¬ NumberedFloor building bound
      (building ++ "-floor-" ++ toString k ++ "-" ++ toString s) := by
  rintro (⟨j, heq⟩ | ⟨j, t, ht, heq⟩)
  · exact floorId_counted_ne_stamped building j k s heq
  · have := floorId_stamp_inj heq
    omega

/-! ## Series of ids -/

/-- Distinct ids of a shape. -/
structure Series (shape : String → Prop) (ids : List String) : Prop where
  nodup : ids.Nodup
  shaped : ∀ id ∈ ids, shape id

namespace Series

variable {p q r : String → Prop} {ids : List String}

theorem nil : Series p [] := ⟨List.nodup_nil, by simp⟩

theorem mono (hpq : ∀ id, p id → q id) (h : Series p ids) : Series q ids :=
  ⟨h.nodup, fun id hid => hpq id (h.shaped id hid)⟩

theorem sublist {few : List String} (h : Series p ids) (hsub : few.Sublist ids) : Series p few :=
  ⟨h.nodup.sublist hsub, fun id hid => h.shaped id (hsub.subset hid)⟩

theorem perm {others : List String} (h : Series p ids) (hperm : others.Perm ids) :
    Series p others :=
  ⟨hperm.nodup_iff.2 h.nodup, fun id hid => h.shaped id (hperm.subset hid)⟩

/-- Ids of another shape that are put behind a series. -/
theorem append {added : List String} (h : Series p ids) (hadded : Series q added)
    (hnew : ∀ id ∈ added, ¬ p id) (hpr : ∀ id, p id → r id) (hqr : ∀ id, q id → r id) :
    Series r (ids ++ added) := by
  refine ⟨List.nodup_append.2 ⟨h.nodup, hadded.nodup, ?_⟩, fun id hid => ?_⟩
  · rintro a ha b hb rfl
    exact hnew a hb (h.shaped a ha)
  · rcases List.mem_append.1 hid with hid | hid
    · exact hpr id (h.shaped id hid)
    · exact hqr id (hadded.shaped id hid)

/-- The ids counted from one. -/
theorem counted (owner : String) {n bound : Nat} (h : n ≤ bound) :
    Series (Numbered owner bound) ((List.range n).map fun j => owner ++ toString (j + 1)) := by
  refine ⟨List.Nodup.map (fun i j hij => ?_) List.nodup_range, fun id hid => ?_⟩
  · have := append_toString_inj.1 hij
    omega
  · obtain ⟨j, hj, rfl⟩ := List.mem_map.1 hid
    have := List.mem_range.1 hj
    exact ⟨j + 1, by omega, rfl⟩

/-- Ids with drawn stamps, put behind the ids issued before. -/
theorem append_drawn {clock : Clock} (hclock : clock.IsPast Intent.maxQuantity) {owner : String}
    {s : Stamps} (h : Series (Numbered owner s.high) ids) (n : Nat) :
    Series (Numbered owner (s.draw clock n).2.high)
      (ids ++ (s.draw clock n).1.map fun stamp => owner ++ toString stamp) := by
  have hadded : Series (Numbered owner (s.draw clock n).2.high)
      ((s.draw clock n).1.map fun stamp => owner ++ toString stamp) := by
    refine ⟨List.Nodup.map (fun i j => append_toString_inj.1) (Stamps.nodup_draw hclock s n), ?_⟩
    intro id hid
    obtain ⟨x, hx, rfl⟩ := List.mem_map.1 hid
    exact ⟨x, (Stamps.mem_draw hclock hx).2, rfl⟩
  refine h.append hadded (fun id hid => ?_)
    (fun _ => Numbered.mono (Stamps.high_le_draw hclock s n)) (fun _ => id)
  obtain ⟨x, hx, rfl⟩ := List.mem_map.1 hid
  exact not_numbered_of_lt (Stamps.mem_draw hclock hx).1

end Series

end Floorplan
