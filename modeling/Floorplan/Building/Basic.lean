import Floorplan.Number.Binary64
import Floorplan.Number.Word

set_option autoImplicit false

/-! # Buildings

A building is a list of floors, a floor has restrooms and corridors, and a corridor has lifts. Floors
are addressed in requests by their number and everywhere else by id; components are addressed by
their place on the floor or by id. Nothing here forces numbers or ids to be distinct, because a saved
building may hold anything. -/

namespace Floorplan

/-- A place on the layout grid. -/
structure Position where
  x : Binary64
  y : Binary64
  deriving BEq, DecidableEq

/-- A lift of a corridor. -/
structure Lift where
  id : String
  position : Position
  deriving BEq, DecidableEq

/-- A restroom, with the images attached to it. -/
structure Restroom where
  id : String
  name : String
  position : Position
  map : Option String := none
  fixture : Option String := none
  deriving BEq, DecidableEq

/-- A corridor with its lifts and the image attached to it. -/
structure Corridor where
  id : String
  name : String
  position : Position
  lifts : List Lift
  map : Option String := none
  deriving BEq, DecidableEq

/-- A floor; `name` is the name it was given, if any. -/
structure Floor where
  id : String
  number : Nat
  name : Option String := none
  restrooms : List Restroom
  corridors : List Corridor
  deriving BEq, DecidableEq

/-- A building; `totalFloors` is the number of floors that it reports. -/
structure Building where
  id : String
  name : String
  totalFloors : Nat
  floors : List Floor
  deriving BEq, DecidableEq

/-- The two kinds of component that a request can address and that can carry a map. -/
inductive ComponentKind where
  | restroom
  | corridor
  deriving DecidableEq, Repr

namespace ComponentKind

/-- The kind with a capital letter, as it stands in names and replies. -/
def label : ComponentKind → String
  | restroom => "Restroom"
  | corridor => "Corridor"

/-- The kind in running text. -/
def noun : ComponentKind → String
  | restroom => "restroom"
  | corridor => "corridor"

/-- The kind in running text, several of them. -/
def plural (k : ComponentKind) : String := k.noun ++ "s"

/-- How many components of the kind a floor has. -/
def countOn (k : ComponentKind) (f : Floor) : Nat :=
  match k with
  | restroom => f.restrooms.length
  | corridor => f.corridors.length

end ComponentKind

namespace Floor

/-- The name that is shown: the one it was given, or the word Floor with its number. -/
def displayName (f : Floor) : String := f.name.getD ("Floor " ++ toString f.number)

end Floor

namespace Building

/-- The first floor with a number. -/
def floorByNumber? (b : Building) (number : Nat) : Option Floor :=
  b.floors.find? fun f => f.number = number

/-- The floor numbers in the order of the floors. -/
def floorNumbers (b : Building) : List Nat := b.floors.map (·.number)

/-- The largest floor number, or zero without floors. -/
def maxFloorNumber (b : Building) : Nat := b.floorNumbers.foldl max 0

/-- The building reporting the floors that it has. -/
def synced (b : Building) : Building := { b with totalFloors := b.floors.length }

/-- The building with an edit made to every floor with a number. -/
def mapNumbered (b : Building) (number : Nat) (edit : Floor → Floor) : Building :=
  { b with floors := b.floors.map fun f => if f.number = number then edit f else f }

end Building

end Floorplan
