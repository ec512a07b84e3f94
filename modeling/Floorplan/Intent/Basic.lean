import Floorplan.Building.Basic

set_option autoImplicit false

/-! # Intents

What a line of text asks for, with the names and numbers it gives. Floors and components are numbered
from one, as they were typed. -/

namespace Floorplan

/-- The building that is asked for. -/
structure BuildingSpec where
  name : Option String
  floors : Nat
  restrooms : Nat
  corridors : Nat
  lifts : Nat
  deriving DecidableEq, Repr

/-- The quantities of a combined addition. -/
structure AddCounts where
  floors : Option Nat
  restrooms : Option Nat
  corridors : Option Nat
  deriving DecidableEq, Repr

/-- How many quantities are given. -/
def AddCounts.given (c : AddCounts) : Nat :=
  ([c.floors, c.restrooms, c.corridors].filter Option.isSome).length

/-- What several names at once are given to. -/
inductive BulkTarget where
  /-- All floors of the building. -/
  | floors
  /-- All components of a kind on a floor. -/
  | components (kind : ComponentKind) (floor : Nat)
  deriving DecidableEq, Repr

/-- What a line of text asks for. -/
inductive Intent where
  | showCommands
  | listBuildings
  | switchBuilding (name : String)
  | bulkRename (target : BulkTarget) (names : List String)
  | renameComponent (kind : ComponentKind) (floor index : Nat) (name : String)
  | renameFloor (floor : Nat) (name : String)
  | renameBuilding (name : String)
  | createBuilding (spec : BuildingSpec)
  | addFloors (count : Nat)
  /-- To one floor, or to every floor. -/
  | addComponents (kind : ComponentKind) (count : Nat) (floor : Option Nat)
  | addMultiple (counts : AddCounts)
  | removeFloors (count : Nat)
  deriving DecidableEq, Repr

end Floorplan
