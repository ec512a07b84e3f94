set_option autoImplicit false

/-! # Stamps

Ids of things made later are told apart by stamps: numbers that follow the clock in milliseconds, and
run ahead of it where several are drawn in one millisecond or the clock goes back. -/

namespace Floorplan

/-- What a clock shows each time it is read: milliseconds where a stamp is drawn, nanoseconds where a
message is written. A reading is told by the latest stamp at that moment; as stamps only grow, the clock
may move on, stand still or go back from one reading to the next, also between the stamp of a message
and its time. -/
structure Clock where
  reading : Nat → Nat
  nanos : Nat → Nat

namespace Clock

/-- The clock that stands still at the beginning of a millisecond. -/
def still (now : Nat) : Clock := ⟨fun _ => now, fun _ => now * 1000000⟩

instance : Coe Nat Clock := ⟨still⟩

end Clock

/-- The latest stamp that was drawn. -/
structure Stamps where
  last : Nat := 0
  deriving DecidableEq, Repr

namespace Stamps

/-- Draws a stamp: the time, or the number after the latest stamp if that is greater. -/
def next (s : Stamps) (clock : Clock) : Nat × Stamps :=
  let stamp := max (clock.reading s.last) (s.last + 1)
  (stamp, ⟨stamp⟩)

/-- Draws several stamps. -/
def draw (s : Stamps) (clock : Clock) : Nat → List Nat × Stamps
  | 0 => ([], s)
  | n + 1 =>
    let (stamp, s) := s.next clock
    let (stamps, s) := s.draw clock n
    (stamp :: stamps, s)

/-- A stamp is greater than the one before it. -/
theorem last_lt_next (s : Stamps) (clock : Clock) : s.last < (s.next clock).1 := by
  simp only [next]; omega

/-- Stamps drawn while the clock stands still are consecutive. -/
theorem draw_eq (s : Stamps) (now n : Nat) :
    (s.draw (.still now) n).1 = List.range' (max now (s.last + 1)) n := by
  induction n generalizing s with
  | zero => simp [draw]
  | succ n ih =>
    simp only [draw, ih, List.range'_succ]
    simp only [next, Clock.still]
    congr 2
    omega

end Stamps

end Floorplan
