import Floorplan.Building.Basic
import Floorplan.Building.Stamp

set_option autoImplicit false

/-! # Components as they are generated

New components stand on a fixed grid: restrooms side by side along the top, corridors below each
other, lifts along their corridor. A building made in one go numbers its parts in their ids; a part
added later has a stamp in its id. -/

namespace Floorplan

/-- Restrooms on a floor that is added without further wishes. -/
def defaultRestrooms : Nat := 2

/-- Corridors on a floor that is added without further wishes. -/
def defaultCorridors : Nat := 2

/-- Lifts in a corridor that is added without further wishes. -/
def defaultLifts : Nat := 2

/-- The coordinate of a small whole number. -/
def Binary64.ofNat (n : Nat) : Binary64 := (Binary64.ofNat? n).getD Binary64.zero

/-- The point `base + index · step` of the grid, the product and the sum rounded in turn. -/
def gridPoint (base step index : Nat) : Binary64 :=
  let offset := (Binary64.ofNat? index).bind (·.mul? (Binary64.ofNat step))
  (offset.bind (Binary64.ofNat base).add?).getD Binary64.zero

/-- Where the restroom with an index stands. -/
def restroomPosition (index : Nat) : Position := ⟨gridPoint 100 150 index, Binary64.ofNat 50⟩

/-- Where the corridor with an index lies. -/
def corridorPosition (index : Nat) : Position := ⟨Binary64.ofNat 100, gridPoint 200 100 index⟩

/-- Where the lift with an index stands in a corridor at a height. -/
def liftPosition (index : Nat) (y : Binary64) : Position := ⟨gridPoint 50 100 index, y⟩

/-- The restroom with an index on its floor. -/
def Restroom.generate (id : String) (index : Nat) : Restroom :=
  { id, name := "Restroom " ++ toString (wrap (index + 1)), position := restroomPosition index }

/-- The corridor with an index on its floor, with a number of lifts. -/
def Corridor.generate (id : String) (index lifts : Nat) : Corridor :=
  let position := corridorPosition index
  { id
    name := "Corridor " ++ toString (wrap (index + 1))
    position
    lifts := (List.range lifts).map fun k =>
      ⟨id ++ "-lift-" ++ toString (k + 1), liftPosition k position.y⟩ }

namespace Floor

/-- A floor with generated components, numbered in their ids. -/
def generate (id : String) (number restrooms corridors lifts : Nat) : Floor :=
  { id
    number
    restrooms := (List.range restrooms).map fun j =>
      .generate (id ++ "-restroom-" ++ toString (j + 1)) j
    corridors := (List.range corridors).map fun j =>
      .generate (id ++ "-corridor-" ++ toString (j + 1)) j lifts }

/-- A floor as it is added without further wishes. -/
def generateDefault (id : String) (number : Nat) : Floor :=
  generate id number defaultRestrooms defaultCorridors defaultLifts

/-- The floor with further restrooms, and the stamps after drawing one for each. -/
def appendRestrooms (f : Floor) (count : Nat) (clock : Clock) (stamps : Stamps) : Floor × Stamps :=
  let (drawn, stamps) := stamps.draw clock count
  let added := drawn.zipIdx.map fun (stamp, i) =>
    Restroom.generate (f.id ++ "-restroom-" ++ toString stamp) (f.restrooms.length + i)
  ({ f with restrooms := f.restrooms ++ added }, stamps)

/-- The floor with further corridors, and the stamps after drawing one for each. -/
def appendCorridors (f : Floor) (count : Nat) (clock : Clock) (stamps : Stamps) : Floor × Stamps :=
  let (drawn, stamps) := stamps.draw clock count
  let added := drawn.zipIdx.map fun (stamp, i) =>
    Corridor.generate (f.id ++ "-corridor-" ++ toString stamp) (f.corridors.length + i) defaultLifts
  ({ f with corridors := f.corridors ++ added }, stamps)

/-- The floor with further components of a kind. -/
def appendComponents (f : Floor) (kind : ComponentKind) (count : Nat) (clock : Clock)
    (stamps : Stamps) : Floor × Stamps :=
  match kind with
  | .restroom => f.appendRestrooms count clock stamps
  | .corridor => f.appendCorridors count clock stamps

end Floor

namespace Building

/-- A building of equal floors, numbered from one. -/
def generate (id name : String) (floors restrooms corridors lifts : Nat) : Building :=
  { id
    name
    totalFloors := floors
    floors := (List.range floors).map fun i =>
      .generate (id ++ "-floor-" ++ toString (i + 1)) (i + 1) restrooms corridors lifts }

/-- The building with default floors stacked on top, and the stamps after drawing one for each. The
numbers go on from the largest floor number. -/
def appendFloors (b : Building) (count : Nat) (clock : Clock) (stamps : Stamps) :
    Building × Stamps :=
  let (drawn, stamps) := stamps.draw clock count
  let top := b.maxFloorNumber
  let added := drawn.zipIdx.map fun (stamp, i) =>
    let number := wrap (top + (i + 1))
    Floor.generateDefault (b.id ++ "-floor-" ++ toString number ++ "-" ++ toString stamp) number
  (synced { b with floors := b.floors ++ added }, stamps)

end Building

end Floorplan
