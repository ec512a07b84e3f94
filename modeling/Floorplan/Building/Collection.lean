import Floorplan.Building.Basic
import Floorplan.Text.Lowercase

set_option autoImplicit false

/-! # Collections of buildings

A collection holds the buildings and the id of the one that is being worked on. Looking up a building
takes the first that fits; names are compared without regard to case. -/

namespace Floorplan

/-- All buildings, and the id of the active one. -/
structure Collection where
  buildings : List Building := []
  activeId : Option String := none
  deriving BEq, DecidableEq

namespace Collection

/-- The collection without buildings. -/
def empty : Collection := {}

/-- The first building with an id. -/
def findById? (c : Collection) (id : String) : Option Building :=
  c.buildings.find? fun b => b.id = id

/-- The building that is being worked on, if its id belongs to one. -/
def active? (c : Collection) : Option Building := c.activeId.bind c.findById?

/-- The first building whose name is the same but for case. -/
def findByName? (c : Collection) (name : String) : Option Building :=
  c.buildings.find? fun b => Text.lower b.name = Text.lower name

/-- The names in order. -/
def names (c : Collection) : List String := c.buildings.map (·.name)

/-- The collection with every building of the same id replaced. -/
def withBuilding (c : Collection) (updated : Building) : Collection :=
  { c with buildings := c.buildings.map fun b => if b.id = updated.id then updated else b }

/-- The collection with a building added at the end and made active. -/
def withNewActive (c : Collection) (b : Building) : Collection :=
  { buildings := c.buildings ++ [b], activeId := some b.id }

end Collection

end Floorplan
