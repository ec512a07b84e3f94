import Floorplan.Proofs.Building.Growth
import Floorplan.Proofs.Building.Lookup
import Floorplan.Proofs.Intent.Regular
import Floorplan.Proofs.Intent.Removal

set_option autoImplicit false

/-! # Quantities add up

Growing twice is growing once by the sum: stamps are drawn one after the other
(`Stamps.draw_add`), places and floor numbers go on where the first growth ended. Taking floors away twice
is taking away as many at once, because what is left the first time is in order and numbered from one.
And taking away as many floors as were put on top leaves the floors that were there, if they were
numbered in order. -/

namespace Floorplan

variable {clock : Clock} {s : Stamps} {b : Building} {f : Floor} {kind : ComponentKind} {m n : Nat}

theorem Stamps.draw_add (s : Stamps) (clock : Clock) (m n : Nat) :
    s.draw clock (m + n) =
      ((s.draw clock m).1 ++ ((s.draw clock m).2.draw clock n).1,
        ((s.draw clock m).2.draw clock n).2) := by
  induction m generalizing s with
  | zero => simp [draw]
  | succ m ih => rw [Nat.succ_add, draw_succ, draw_succ, ih, List.cons_append]

/-- Of two lists in a row the places in the second go on behind the first. -/
theorem map_zipIdx_append {α β : Type} (make : α → Nat → β) (xs ys : List α) :
    ((xs ++ ys).zipIdx.map fun x => make x.1 x.2) =
      (xs.zipIdx.map fun x => make x.1 x.2) ++
        ys.zipIdx.map fun y => make y.1 (xs.length + y.2) := by
  have h : (xs ++ ys).mapIdx (fun i x => make x i) =
      xs.mapIdx (fun i x => make x i) ++ ys.mapIdx fun i x => make x (i + xs.length) :=
    List.mapIdx_append
  simpa only [List.mapIdx_eq_zipIdx_map, Nat.add_comm] using h

/-! ## Components -/

theorem Floor.appendComponents_add (f : Floor) (kind : ComponentKind) (m n : Nat) (clock : Clock)
    (s : Stamps) :
    (f.appendComponents kind m clock s).1.appendComponents kind n clock
      (f.appendComponents kind m clock s).2 = f.appendComponents kind (m + n) clock s := by
  cases kind with
  | restroom =>
    simp only [appendComponents, appendRestrooms, Stamps.draw_add]
    rw [map_zipIdx_append fun stamp i =>
      Restroom.generate (f.id ++ "-restroom-" ++ toString stamp) (f.restrooms.length + i)]
    simp only [List.length_append, List.length_map, List.length_zipIdx, Stamps.length_draw,
      List.append_assoc, Nat.add_assoc]
  | corridor =>
    simp only [appendComponents, appendCorridors, Stamps.draw_add]
    rw [map_zipIdx_append fun stamp i =>
      Corridor.generate (f.id ++ "-corridor-" ++ toString stamp) (f.corridors.length + i) defaultLifts]
    simp only [List.length_append, List.length_map, List.length_zipIdx, Stamps.length_draw,
      List.append_assoc, Nat.add_assoc]

namespace Building

/-- Putting a floor in the place of another twice leaves the second one there. -/
theorem mapNumbered_const_twice {g : Floor} {number : Nat} (hg : g.number = number)
    (b : Building) (h : Floor) :
    (b.mapNumbered number fun _ => g).mapNumbered number (fun _ => h) =
      b.mapNumbered number fun _ => h := by
  simp only [mapNumbered, List.map_map, mk.injEq, true_and]
  refine List.map_congr_left fun f _ => ?_
  simp only [Function.comp_apply]
  by_cases hf : f.number = number <;> simp [hf, hg]

/-! ## Floors on top -/

/-- The floors that are put on top of those up to a number, one for each stamp. -/
def newFloors (id : String) (top : Nat) (stamps : List Nat) : List Floor :=
  stamps.zipIdx.map fun x =>
    let number := wrap (top + (x.2 + 1))
    Floor.generateDefault (id ++ "-floor-" ++ toString number ++ "-" ++ toString x.1) number

theorem appendFloors_eq (b : Building) (count : Nat) (clock : Clock) (s : Stamps) :
    b.appendFloors count clock s =
      (synced { b with floors := b.floors ++ newFloors b.id b.maxFloorNumber (s.draw clock count).1 },
        (s.draw clock count).2) := rfl

theorem newFloors_append (id : String) (top : Nat) (xs ys : List Nat) :
    newFloors id top (xs ++ ys) = newFloors id top xs ++ newFloors id (top + xs.length) ys := by
  simp only [newFloors, Nat.add_assoc]
  exact map_zipIdx_append (fun stamp i => Floor.generateDefault
    (id ++ "-floor-" ++ toString (wrap (top + (i + 1))) ++ "-" ++ toString stamp)
    (wrap (top + (i + 1)))) xs ys

theorem map_number_newFloors {id : String} {top : Nat} {stamps : List Nat}
    (h : top + stamps.length < wordLimit) :
    (newFloors id top stamps).map (·.number) = List.range' (top + 1) stamps.length := by
  rw [← map_wrap_zipIdx h, newFloors, List.map_map]
  rfl

theorem foldl_max_range'_succ (top n : Nat) : (List.range' (top + 1) n).foldl max top = top + n := by
  induction n generalizing top with
  | zero => rfl
  | succ n ih =>
    rw [List.range'_succ, List.foldl_cons, Nat.max_eq_right (Nat.le_succ top), ih]
    omega

/-- The largest number goes up by the number of floors, as long as it fits a word. -/
theorem maxFloorNumber_appendFloors (h : b.maxFloorNumber + n < wordLimit) (clock : Clock)
    (s : Stamps) :
    (b.appendFloors n clock s).1.maxFloorNumber = b.maxFloorNumber + n := by
  have hlength := Stamps.length_draw s clock n
  rw [appendFloors_eq, maxFloorNumber, floorNumbers, synced, List.map_append,
    map_number_newFloors (by rwa [hlength]), hlength, List.foldl_append]
  exact foldl_max_range'_succ b.maxFloorNumber n

theorem appendFloors_add (h : b.maxFloorNumber + m < wordLimit) (n : Nat) (clock : Clock)
    (s : Stamps) :
    (b.appendFloors m clock s).1.appendFloors n clock (b.appendFloors m clock s).2 =
      b.appendFloors (m + n) clock s := by
  rw [appendFloors_eq (b.appendFloors m clock s).1, maxFloorNumber_appendFloors h,
    appendFloors_eq b (m + n), Stamps.draw_add, newFloors_append, Stamps.length_draw]
  simp only [appendFloors_eq, synced, List.append_assoc]

/-! ## Floors from the top -/

/-- The building without as many of the highest floors, but with one at least, numbered anew. -/
def lowered (b : Building) (count : Nat) : Building :=
  synced { b with floors := renumber ((b.floors.mergeSort fun f g => f.number ≤ g.number).take
    (b.floors.length - min count (b.floors.length - 1))) }

theorem ascending_take_mergeSort (floors : List Floor) (n : Nat) :
    ((floors.mergeSort fun f g => f.number ≤ g.number).take n).Pairwise
      fun f g => f.number ≤ g.number :=
  (stableOrder_mergeSort floors).ascending.sublist (List.take_sublist n _)

theorem map_number_numbered (floors : List Floor) :
    (numbered floors).map (·.number) = List.range' 1 floors.length := by
  apply List.ext_getElem (by simp [numbered])
  intro i _ _
  simp [numbered, Nat.add_comm]

/-- Floors that are numbered in a row are in ascending order. -/
theorem ascending_of_numbers {floors : List Floor} {start k : Nat}
    (h : floors.map (·.number) = List.range' start k) :
    floors.Pairwise fun f g => f.number ≤ g.number := by
  have hrange : (floors.map (·.number)).Pairwise (· ≤ ·) := by
    rw [h]
    exact List.pairwise_le_range'
  exact List.pairwise_map.1 hrange

theorem numbered_of_numbers {floors : List Floor}
    (h : floors.map (·.number) = List.range' 1 floors.length) : numbered floors = floors := by
  refine List.ext_getElem List.length_mapIdx fun i _ hi => ?_
  have hnumber : floors[i].number = i + 1 := by
    have hget := congrArg (·[i]?) h
    simpa [hi, Nat.add_comm] using hget
  simp only [numbered, List.getElem_mapIdx, ← hnumber]

theorem numbered_take_numbered (floors : List Floor) (k : Nat) :
    numbered ((numbered floors).take k) = numbered (floors.take k) := by
  refine List.ext_getElem (by simp [numbered]) fun i _ _ => ?_
  simp [numbered]

theorem floors_lowered (b : Building) (count : Nat) :
    (b.lowered count).floors = numbered ((b.floors.mergeSort fun f g => f.number ≤ g.number).take
      (b.floors.length - min count (b.floors.length - 1))) :=
  renumber_of_ascending (ascending_take_mergeSort _ _)

theorem length_floors_lowered (b : Building) (count : Nat) :
    (b.lowered count).floors.length = b.floors.length - min count (b.floors.length - 1) := by
  rw [floors_lowered, numbered, List.length_mapIdx, List.length_take, List.length_mergeSort]
  omega

/-- **Taking floors away twice is taking them away at once.** -/
theorem lowered_lowered (b : Building) (m n : Nat) :
    (b.lowered m).lowered n = b.lowered (m + n) := by
  have hfloors : ((b.lowered m).lowered n).floors = (b.lowered (m + n)).floors := by
    have hsorted : ((b.lowered m).floors.mergeSort fun f g => f.number ≤ g.number) =
        (b.lowered m).floors := by
      refine mergeSort_of_ascending ?_
      rw [floors_lowered]
      exact ascending_of_numbers (map_number_numbered _)
    rw [floors_lowered, hsorted, length_floors_lowered, floors_lowered, floors_lowered,
      numbered_take_numbered, List.take_take]
    congr 2
    omega
  calc (b.lowered m).lowered n
      = synced { b with floors := ((b.lowered m).lowered n).floors } := rfl
    _ = synced { b with floors := (b.lowered (m + n)).floors } := by rw [hfloors]
    _ = b.lowered (m + n) := rfl

/-- What a removal leaves: where no floor can be removed the building stays as it is. -/
def withoutTop (b : Building) (count : Nat) : Building :=
  if min count (b.floors.length - 1) = 0 then b else b.lowered count

theorem id_withoutTop (b : Building) (count : Nat) : (b.withoutTop count).id = b.id := by
  rw [withoutTop]
  split <;> rfl

theorem withoutTop_withoutTop (b : Building) (m n : Nat) :
    (b.withoutTop m).withoutTop n = b.withoutTop (m + n) := by
  by_cases hm : min m (b.floors.length - 1) = 0
  · rw [show b.withoutTop m = b from if_pos hm]
    rcases Nat.eq_zero_or_pos m with rfl | hpos
    · rw [Nat.zero_add]
    · -- There is one floor at most, and nothing is ever removed.
      rw [withoutTop, withoutTop, if_pos (by omega), if_pos (by omega)]
  · have hsum : ¬ min (m + n) (b.floors.length - 1) = 0 := by omega
    have hlength := length_floors_lowered b m
    rw [show b.withoutTop m = b.lowered m from if_neg hm,
      show b.withoutTop (m + n) = b.lowered (m + n) from if_neg hsum, withoutTop]
    split
    · rw [lowered, lowered, show min (m + n) (b.floors.length - 1) = min m (b.floors.length - 1) by
        omega]
    · exact lowered_lowered b m n

/-- **Taking away the floors that were put on top gives the building back.** -/
theorem withoutTop_appendFloors (h : b.Counted) (hfloors : 1 ≤ b.floors.length)
    (hfits : b.floors.length + n < wordLimit) (clock : Clock) (s : Stamps) :
    (b.appendFloors n clock s).1.withoutTop n = b := by
  have hgrown : (b.appendFloors n clock s).1.Counted := h.appendFloors hfits
  have hlength := length_appendFloors b n clock s
  have hreports : synced b = b := by rw [synced, ← h.totalFloors_eq]
  rw [withoutTop]
  split
  · obtain rfl : n = 0 := by omega
    rw [appendFloors_eq]
    simpa [Stamps.draw, newFloors] using hreports
  · have hleft : (b.appendFloors n clock s).1.floors.length -
        min n ((b.appendFloors n clock s).1.floors.length - 1) = b.floors.length := by omega
    have hkept : ((b.appendFloors n clock s).1.lowered n).floors = b.floors := by
      rw [floors_lowered, mergeSort_of_ascending (ascending_of_numbers hgrown.floorNumbers_eq), hleft,
        appendFloors_eq, synced, List.take_left]
      exact numbered_of_numbers h.floorNumbers_eq
    calc (b.appendFloors n clock s).1.lowered n
        = synced { b with floors := ((b.appendFloors n clock s).1.lowered n).floors } := rfl
      _ = synced b := by rw [hkept]
      _ = b := hreports

end Building

end Floorplan
