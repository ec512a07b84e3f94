import Floorplan.Building.Collection

set_option autoImplicit false

/-! # Comma-separated values

One record for every restroom and corridor, in the order of buildings and floors, behind a header. A
field is put in quotes if a comma, a quote or the end of a line occurs in it, and a quote inside is
written twice. Every record ends with a line feed. -/

namespace Floorplan.Csv

/-- The names of the fields. -/
def header : List String :=
  ["Building", "Floor", "Floor Name", "Kind", "Component", "Lifts", "Has Map", "Has Fixture"]

/-- A flag in words. -/
def yesNo (flag : Bool) : String := if flag then "yes" else "no"

/-- The record of a restroom. It has no lifts. -/
def restroomRecord (b : Building) (f : Floor) (r : Restroom) : List String :=
  [b.name, toString f.number, f.displayName, ComponentKind.restroom.label, r.name, "",
   yesNo r.map.isSome, yesNo r.fixture.isSome]

/-- The record of a corridor. It has no fixture. -/
def corridorRecord (b : Building) (f : Floor) (c : Corridor) : List String :=
  [b.name, toString f.number, f.displayName, ComponentKind.corridor.label, c.name,
   toString c.lifts.length, yesNo c.map.isSome, ""]

/-- The records of a floor: its restrooms, then its corridors. -/
def floorRecords (b : Building) (f : Floor) : List (List String) :=
  f.restrooms.map (restroomRecord b f) ++ f.corridors.map (corridorRecord b f)

/-- The records of a collection. -/
def records (c : Collection) : List (List String) :=
  c.buildings.flatMap fun b => b.floors.flatMap (floorRecords b)

/-- Does the character make quotes necessary? -/
def isSpecial (c : Char) : Bool := c = ',' || c = '"' || c = '\n' || c = '\r'

/-- A field as it is written. -/
def field (s : List Char) : List Char :=
  if s.any isSpecial then '"' :: (s.flatMap fun c => if c = '"' then ['"', '"'] else [c]) ++ ['"']
  else s

/-- A record as it is written. -/
def line (fields : List String) : List Char :=
  List.intercalate [','] (fields.map fun f => field f.toList) ++ ['\n']

/-- The collection as text. -/
def write (c : Collection) : String := String.ofList ((header :: records c).flatMap line)

end Floorplan.Csv
