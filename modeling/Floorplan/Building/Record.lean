import Floorplan.Building.Collection
import Floorplan.Json.Record

set_option autoImplicit false

/-! # Buildings as documents

The layout in which buildings are saved and exported. Images and given names are left out where there
are none; the id of the active building is always written. -/

namespace Floorplan

open Json (fields? required? optional? toText? toNat? toBinary64? toList?)

namespace Position

/-- The position as a document. -/
def toJson (p : Position) : Json := .record [("x", .ofBinary64 p.x), ("y", .ofBinary64 p.y)]

/-- The position in a document. -/
def ofJson? (j : Json) : Option Position :=
  match fields? ["x", "y"] 2 j with
  | some [x, y] => do return ⟨← required? toBinary64? x, ← required? toBinary64? y⟩
  | _ => none

end Position

namespace Lift

/-- The lift as a document. -/
def toJson (l : Lift) : Json := .record [("id", .ofText l.id), ("position", l.position.toJson)]

/-- The lift in a document. -/
def ofJson? (j : Json) : Option Lift :=
  match fields? ["id", "position"] 2 j with
  | some [id, position] => do
    return ⟨← required? toText? id, ← required? Position.ofJson? position⟩
  | _ => none

end Lift

namespace Restroom

/-- The restroom as a document. -/
def toJson (r : Restroom) : Json :=
  .record <|
    [("id", .ofText r.id), ("name", .ofText r.name), ("position", r.position.toJson)] ++
      Json.fieldIfSome "map2D" r.map ++ Json.fieldIfSome "fixtureDetails" r.fixture

/-- The restroom in a document. -/
def ofJson? (j : Json) : Option Restroom :=
  match fields? ["id", "name", "position", "map2D", "fixtureDetails"] 3 j with
  | some [id, name, position, map, fixture] => do
    return { id := ← required? toText? id, name := ← required? toText? name
             position := ← required? Position.ofJson? position
             map := ← optional? map, fixture := ← optional? fixture }
  | _ => none

end Restroom

namespace Corridor

/-- The corridor as a document. -/
def toJson (c : Corridor) : Json :=
  .record <|
    [("id", .ofText c.id), ("name", .ofText c.name), ("position", c.position.toJson),
     ("lifts", .array (c.lifts.map Lift.toJson))] ++ Json.fieldIfSome "map2D" c.map

/-- The corridor in a document. -/
def ofJson? (j : Json) : Option Corridor :=
  match fields? ["id", "name", "position", "lifts", "map2D"] 4 j with
  | some [id, name, position, lifts, map] => do
    return { id := ← required? toText? id, name := ← required? toText? name
             position := ← required? Position.ofJson? position
             lifts := ← required? (toList? Lift.ofJson?) lifts, map := ← optional? map }
  | _ => none

end Corridor

namespace Floor

/-- The floor as a document. -/
def toJson (f : Floor) : Json :=
  .record <|
    [("id", .ofText f.id), ("number", .ofNat f.number)] ++ Json.fieldIfSome "name" f.name ++
      [("restrooms", .array (f.restrooms.map Restroom.toJson)),
       ("corridors", .array (f.corridors.map Corridor.toJson))]

/-- The floor in a document. -/
def ofJson? (j : Json) : Option Floor :=
  match fields? ["id", "number", "name", "restrooms", "corridors"] 5 j with
  | some [id, number, name, restrooms, corridors] => do
    return { id := ← required? toText? id, number := ← required? toNat? number
             name := ← optional? name
             restrooms := ← required? (toList? Restroom.ofJson?) restrooms
             corridors := ← required? (toList? Corridor.ofJson?) corridors }
  | _ => none

end Floor

namespace Building

/-- The building as a document. -/
def toJson (b : Building) : Json :=
  .record [("id", .ofText b.id), ("name", .ofText b.name), ("totalFloors", .ofNat b.totalFloors),
    ("floors", .array (b.floors.map Floor.toJson))]

/-- The building in a document. -/
def ofJson? (j : Json) : Option Building :=
  match fields? ["id", "name", "totalFloors", "floors"] 4 j with
  | some [id, name, totalFloors, floors] => do
    return { id := ← required? toText? id, name := ← required? toText? name
             totalFloors := ← required? toNat? totalFloors
             floors := ← required? (toList? Floor.ofJson?) floors }
  | _ => none

end Building

namespace Collection

/-- The collection as a document. -/
def toJson (c : Collection) : Json :=
  .record [("buildings", .array (c.buildings.map Building.toJson)),
    ("activeBuilding", match c.activeId with | some id => .ofText id | none => .null)]

/-- The collection in a document. -/
def ofJson? (j : Json) : Option Collection :=
  match fields? ["buildings", "activeBuilding"] 2 j with
  | some [buildings, activeId] => do
    return { buildings := ← required? (toList? Building.ofJson?) buildings
             activeId := ← optional? activeId }
  | _ => none

end Collection

end Floorplan
