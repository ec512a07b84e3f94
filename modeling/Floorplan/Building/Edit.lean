import Floorplan.Building.Generate
import Floorplan.Text.Blank

set_option autoImplicit false

/-! # Editing a building by ids

The edits that the layout keys make. Every floor, component or lift with the given id is affected; an
id that occurs nowhere affects nothing. New floors, components and lifts draw stamps, so those edits
give the stamps back. -/

namespace Floorplan

namespace Floor

/-- The floor with an edit made to every restroom with an id. -/
def mapRestroom (f : Floor) (id : String) (edit : Restroom → Restroom) : Floor :=
  { f with restrooms := f.restrooms.map fun r => if r.id = id then edit r else r }

/-- The floor with an edit made to every corridor with an id. -/
def mapCorridor (f : Floor) (id : String) (edit : Corridor → Corridor) : Floor :=
  { f with corridors := f.corridors.map fun c => if c.id = id then edit c else c }

/-- The floor without the components of a kind that have an id. -/
def removeComponent (f : Floor) (kind : ComponentKind) (id : String) : Floor :=
  match kind with
  | .restroom => { f with restrooms := f.restrooms.filter fun r => r.id ≠ id }
  | .corridor => { f with corridors := f.corridors.filter fun c => c.id ≠ id }

end Floor

/-- The floors in the order of their numbers, numbered from one; floors of the same number keep their
order. -/
def renumber (floors : List Floor) : List Floor :=
  (floors.mergeSort fun f g => f.number ≤ g.number).zipIdx.map fun (f, i) =>
    { f with number := i + 1 }

namespace Building

/-- The building with an edit made to every floor with an id. -/
def mapFloor (b : Building) (id : String) (edit : Floor → Floor) : Building :=
  { b with floors := b.floors.map fun f => if f.id = id then edit f else f }

/-- The first floor with an id. -/
def floorById? (b : Building) (id : String) : Option Floor := b.floors.find? fun f => f.id = id

/-- Adds a default floor on top. -/
def addFloor (b : Building) (clock : Clock) (stamps : Stamps) : Building × Stamps :=
  b.appendFloors 1 clock stamps

/-- Removes a floor and numbers the others anew. The last floor stays. -/
def removeFloor (b : Building) (floorId : String) : Building :=
  if b.floors.length ≤ 1 then b
  else synced { b with floors := renumber (b.floors.filter fun f => f.id ≠ floorId) }

/-- Adds a component of a kind to a floor. -/
def addComponent (b : Building) (kind : ComponentKind) (floorId : String) (clock : Clock)
    (stamps : Stamps) : Building × Stamps :=
  match b.floorById? floorId with
  | none => (b, stamps)
  | some f =>
    let (grown, stamps) := f.appendComponents kind 1 clock stamps
    (b.mapFloor floorId fun _ => grown, stamps)

/-- Removes a component from a floor. -/
def removeComponent (b : Building) (kind : ComponentKind) (floorId componentId : String) : Building :=
  b.mapFloor floorId fun f => f.removeComponent kind componentId

/-- Adds a lift at the end of a corridor, at the corridor's height. A stamp is drawn in any case. -/
def addLift (b : Building) (floorId corridorId : String) (clock : Clock) (stamps : Stamps) :
    Building × Stamps :=
  let (stamp, stamps) := stamps.next clock
  let id := corridorId ++ "-lift-" ++ toString stamp
  let grow (c : Corridor) : Corridor :=
    { c with lifts := c.lifts ++ [⟨id, liftPosition c.lifts.length c.position.y⟩] }
  (b.mapFloor floorId fun f => f.mapCorridor corridorId grow, stamps)

/-- Removes a lift from a corridor. -/
def removeLift (b : Building) (floorId corridorId liftId : String) : Building :=
  b.mapFloor floorId fun f => f.mapCorridor corridorId fun c =>
    { c with lifts := c.lifts.filter fun l => l.id ≠ liftId }

/-- Gives a floor a name, without the white space around it; a blank name takes its name away. -/
def renameFloor (b : Building) (floorId name : String) : Building :=
  let trimmed := Text.trim name
  b.mapFloor floorId fun f => { f with name := if trimmed.isEmpty then none else some trimmed }

/-- Gives a component a name, without the white space around it. -/
def renameComponent (b : Building) (kind : ComponentKind) (floorId componentId name : String) :
    Building :=
  let trimmed := Text.trim name
  b.mapFloor floorId fun f =>
    match kind with
    | .restroom => f.mapRestroom componentId fun r => { r with name := trimmed }
    | .corridor => f.mapCorridor componentId fun c => { c with name := trimmed }

end Building

/-- An edit of a building, by ids. -/
inductive Edit where
  | addFloor
  | appendFloors (count : Nat)
  | removeFloor (floor : String)
  | addComponent (kind : ComponentKind) (floor : String)
  | removeComponent (kind : ComponentKind) (floor component : String)
  | addLift (floor corridor : String)
  | removeLift (floor corridor lift : String)
  | renameFloor (floor name : String)
  | renameComponent (kind : ComponentKind) (floor component name : String)
  | renumber
  | synced
  deriving DecidableEq, Repr

/-- The building after an edit, and the stamps. -/
def Edit.applyTo (e : Edit) (b : Building) (clock : Clock) (stamps : Stamps) : Building × Stamps :=
  match e with
  | addFloor => b.addFloor clock stamps
  | appendFloors count => b.appendFloors count clock stamps
  | removeFloor floor => (b.removeFloor floor, stamps)
  | addComponent kind floor => b.addComponent kind floor clock stamps
  | removeComponent kind floor component => (b.removeComponent kind floor component, stamps)
  | addLift floor corridor => b.addLift floor corridor clock stamps
  | removeLift floor corridor lift => (b.removeLift floor corridor lift, stamps)
  | renameFloor floor name => (b.renameFloor floor name, stamps)
  | renameComponent kind floor component name => (b.renameComponent kind floor component name, stamps)
  | renumber => ({ b with floors := Floorplan.renumber b.floors }, stamps)
  | synced => (b.synced, stamps)

end Floorplan
