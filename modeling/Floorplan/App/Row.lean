import Floorplan.Building.Basic

set_option autoImplicit false

/-! # Rows of the layout

The layout panel shows a building as a list of rows: every floor, below it its restrooms and corridors,
and below a corridor its lifts. -/

namespace Floorplan

/-- What a row stands for, by ids. -/
inductive LayoutNode where
  | floor (floor : String)
  | restroom (floor restroom : String)
  | corridor (floor corridor : String)
  | lift (floor corridor lift : String)
  deriving DecidableEq, Repr

namespace LayoutNode

/-- The id of the floor that the row is on. -/
def floorId : LayoutNode → String
  | floor f => f
  | restroom f _ => f
  | corridor f _ => f
  | lift f _ _ => f

/-- The kind and the id of the component that carries a map. -/
def component? : LayoutNode → Option (ComponentKind × String)
  | restroom _ r => some (.restroom, r)
  | corridor _ c => some (.corridor, c)
  | floor _ => none
  | lift _ _ _ => none

end LayoutNode

/-- A row: what it stands for, how far it is indented, and what it shows. -/
structure LayoutRow where
  node : LayoutNode
  depth : Nat
  label : String
  hasMap : Bool := false
  hasFixture : Bool := false
  deriving DecidableEq, Repr

namespace LayoutRow

/-- The row of a floor: its number, and its name if it was given one. -/
def ofFloor (f : Floor) : LayoutRow :=
  { node := .floor f.id
    depth := 0
    label :=
      match f.name with
      | some name => toString f.number ++ " · " ++ name
      | none => "Floor " ++ toString f.number }

/-- The row of a restroom. -/
def ofRestroom (f : Floor) (r : Restroom) : LayoutRow :=
  { node := .restroom f.id r.id, depth := 1, label := r.name
    hasMap := r.map.isSome, hasFixture := r.fixture.isSome }

/-- The row of the lift with an index in its corridor. -/
def ofLift (f : Floor) (c : Corridor) (l : Lift) (index : Nat) : LayoutRow :=
  { node := .lift f.id c.id l.id, depth := 2, label := "Lift " ++ toString (index + 1) }

/-- The rows of a corridor and its lifts. -/
def ofCorridor (f : Floor) (c : Corridor) : List LayoutRow :=
  { node := .corridor f.id c.id, depth := 1, label := c.name, hasMap := c.map.isSome } ::
    c.lifts.zipIdx.map fun (l, i) => ofLift f c l i

/-- The rows of a floor and everything on it. -/
def onFloor (f : Floor) : List LayoutRow :=
  ofFloor f :: (f.restrooms.map (ofRestroom f) ++ f.corridors.flatMap (ofCorridor f))

end LayoutRow

/-- The rows of a building. -/
def Building.layoutRows (b : Building) : List LayoutRow := b.floors.flatMap LayoutRow.onFloor

end Floorplan
