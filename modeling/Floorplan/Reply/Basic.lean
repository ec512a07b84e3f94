import Floorplan.Building.Collection

set_option autoImplicit false

/-! # Replies

What the assistant has to say after a request, before it is put into words. -/

namespace Floorplan

/-- A building in a list: its name, the floors it reports, and whether it is the active one. -/
structure ListedBuilding where
  name : String
  floors : Nat
  active : Bool
  deriving DecidableEq, Repr

/-- What the assistant has to say. -/
inductive Reply where
  | welcome
  | commands (buildings : Nat) (active : Option String)
  | buildingList (listed : List ListedBuilding)
  | switched (name : String) (floors : Nat)
  | buildingNotFound (query : String) (available : List String)
  | floorsRenamed (count : Nat) (floors : List (Nat × String))
  | componentsRenamed (kind : ComponentKind) (floor count : Nat) (names : List String)
  | componentRenamed (kind : ComponentKind) (floor index : Nat) (name : String)
  | floorRenamed (floor : Nat) (name : String)
  | buildingRenamed (name : String)
  | floorMissing (floor : Nat) (building : String) (available : List Nat)
  | componentMissing (kind : ComponentKind) (index floor available : Nat)
  | nameTaken (name : String) (floors : Nat)
  | created (name : String) (floors restrooms corridors lifts totalBuildings : Nat)
  | noActiveBuilding
  | floorsAdded (count : Nat) (building : String) (totalFloors : Nat)
  | componentsAdded (kind : ComponentKind) (count : Nat) (floor : Option Nat)
  | unknownFloor (floor : Nat)
  | multipleAdded (changes : List String) (building : String) (totalFloors : Nat)
  | floorsRemoved (count totalFloors : Nat)
  | lastFloor
  | tooMany (requested limit : Nat)
  | notUnderstood (hasBuildings : Bool) (current : Option (String × Nat))
  | configurationUpdated
  deriving DecidableEq, Repr

/-- The reply to text in which no request is recognised. -/
def Reply.forUnknown (c : Collection) : Reply :=
  .notUnderstood (!c.buildings.isEmpty) (c.active?.map fun b => (b.name, b.totalFloors))

/-- "1 floor", "3 floors". -/
def counted (count : Nat) (singular : String) : String :=
  toString count ++ " " ++ singular ++ (if count = 1 then "" else "s")

end Floorplan
