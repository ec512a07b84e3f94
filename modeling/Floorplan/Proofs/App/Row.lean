import Floorplan.App.Row
import Floorplan.Building.Edit
import Floorplan.Proofs.Building.ByValue

set_option autoImplicit false

/-! # What the rows stand for

The rows of a building stand for its floors, components and lifts, by their ids and in their order.
What is attached to a component shows in its row, but the row stands for the same as before. Coordinates
do not show in the rows at all. -/

namespace Floorplan

/-- What the rows of a corridor of a floor stand for: the corridor and its lifts. -/
def Corridor.nodes (floor : String) (c : Corridor) : List LayoutNode :=
  .corridor floor c.id :: c.lifts.map fun l => .lift floor c.id l.id

/-- What the rows of a floor stand for: the floor and everything on it. -/
def Floor.nodes (f : Floor) : List LayoutNode :=
  .floor f.id :: ((f.restrooms.map fun r => .restroom f.id r.id) ++ f.corridors.flatMap (·.nodes f.id))

/-- What the rows of a building stand for. -/
def Building.nodes (b : Building) : List LayoutNode := b.floors.flatMap Floor.nodes

namespace LayoutRow

theorem map_node_ofCorridor (f : Floor) (c : Corridor) :
    (ofCorridor f c).map (·.node) = c.nodes f.id := by
  have hlifts : (c.lifts.zipIdx.map fun x => LayoutNode.lift f.id c.id x.1.id)
      = c.lifts.map fun l => .lift f.id c.id l.id := by
    calc (c.lifts.zipIdx.map fun x => LayoutNode.lift f.id c.id x.1.id)
        = (c.lifts.zipIdx.map Prod.fst).map fun l => .lift f.id c.id l.id := by
          rw [List.map_map]; rfl
      _ = c.lifts.map fun l => .lift f.id c.id l.id := by rw [List.zipIdx_map_fst]
  rw [ofCorridor, List.map_cons, List.map_map]
  exact congrArg _ hlifts

theorem map_node_onFloor (f : Floor) : (onFloor f).map (·.node) = f.nodes := by
  have hrestrooms : (f.restrooms.map (ofRestroom f)).map (·.node)
      = f.restrooms.map fun r => .restroom f.id r.id := by
    rw [List.map_map]
    rfl
  rw [onFloor, List.map_cons, List.map_append, hrestrooms, List.map_flatMap]
  simp only [map_node_ofCorridor]
  rfl

theorem ofCorridor_unplaced (f : Floor) (c : Corridor) :
    ofCorridor f.unplaced c.unplaced = ofCorridor f c := by
  simp only [ofCorridor, Corridor.unplaced, List.zipIdx_map, List.map_map]
  rfl

theorem onFloor_unplaced (f : Floor) : onFloor f.unplaced = onFloor f := by
  have hrestrooms : (f.restrooms.map Restroom.unplaced).map (ofRestroom f.unplaced)
      = f.restrooms.map (ofRestroom f) := by
    rw [List.map_map]
    rfl
  have hcorridors : (f.corridors.map Corridor.unplaced).flatMap (ofCorridor f.unplaced)
      = f.corridors.flatMap (ofCorridor f) := by
    simp only [List.flatMap_map, ofCorridor_unplaced]
  rw [onFloor, onFloor, ← hrestrooms, ← hcorridors]
  rfl

end LayoutRow

namespace Floor

variable {f : Floor}

/-- An edit of restrooms that leaves their ids alone. -/
theorem nodes_mapRestroom (id : String) {edit : Restroom → Restroom}
    (hid : ∀ r, (edit r).id = r.id) : (f.mapRestroom id edit).nodes = f.nodes := by
  have hrestroom : ∀ r, (if r.id = id then edit r else r).id = r.id := by
    intro r
    split
    · exact hid r
    · rfl
  simp only [nodes, mapRestroom, List.map_map, Function.comp_def, hrestroom]

/-- An edit of corridors that leaves what their rows stand for alone. -/
theorem nodes_mapCorridor (id : String) {edit : Corridor → Corridor}
    (hnodes : ∀ floor c, (edit c).nodes floor = c.nodes floor) :
    (f.mapCorridor id edit).nodes = f.nodes := by
  have hcorridor : ∀ c, (if c.id = id then edit c else c).nodes f.id = c.nodes f.id := by
    intro c
    split
    · exact hnodes f.id c
    · rfl
  simp only [nodes, mapCorridor, List.flatMap_map, hcorridor]

end Floor

namespace Building

variable {b : Building}

theorem map_node_layoutRows (b : Building) : b.layoutRows.map (·.node) = b.nodes := by
  simp only [layoutRows, List.map_flatMap, LayoutRow.map_node_onFloor, nodes]

theorem layoutRows_unplaced (b : Building) : b.unplaced.layoutRows = b.layoutRows := by
  simp only [layoutRows, unplaced, List.flatMap_map, LayoutRow.onFloor_unplaced]

/-- A building has as many rows as there are things that they stand for. -/
theorem length_layoutRows (b : Building) : b.layoutRows.length = b.nodes.length := by
  rw [← map_node_layoutRows, List.length_map]

/-- An edit of floors that leaves what their rows stand for alone. -/
theorem nodes_mapFloor (id : String) {edit : Floor → Floor} (hnodes : ∀ f, (edit f).nodes = f.nodes) :
    (b.mapFloor id edit).nodes = b.nodes := by
  have hfloor : ∀ f, (if f.id = id then edit f else f).nodes = f.nodes := by
    intro f
    split
    · exact hnodes f
    · rfl
  simp only [nodes, mapFloor, List.flatMap_map, hfloor]

end Building

end Floorplan
