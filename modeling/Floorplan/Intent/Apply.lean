import Floorplan.Building.Edit
import Floorplan.Intent.Family
import Floorplan.Reply.Basic

set_option autoImplicit false

/-! # Carrying out an intent

Carrying out an intent gives a new collection, or none if nothing changes, and a reply. All but the
intents about the collection as a whole work on the active building.

Renaming one component writes to every floor with the number that was given, and the place was only
checked on the first of them. If a later one is too short for it the request has no outcome. Nor would
it have one if a word went below zero, so differences of words are checked. -/

namespace Floorplan

/-- What an intent leads to: a new collection, unless nothing changes, and a reply. -/
structure Outcome where
  collection : Option Collection
  reply : Reply
  deriving DecidableEq

/-- Why a request has no outcome. -/
inductive Fault where
  /-- There is no component at the place that is to be renamed. -/
  | missingComponent
  /-- A word would go below zero. -/
  | underflow
  deriving DecidableEq, Repr

/-- The difference of two words. -/
def difference (m n : Nat) : Except Fault Nat := if n ≤ m then .ok (m - n) else .error .underflow

namespace Intent

/-- The largest quantity that one request may ask for. -/
def maxQuantity : Nat := 50

/-- The largest quantity that an intent asks to make. -/
def requested? : Intent → Option Nat
  | createBuilding s => some (max (max s.floors s.restrooms) (max s.corridors s.lifts))
  | addFloors count => some count
  | addComponents _ count _ => some count
  | addMultiple c => ([c.floors, c.restrooms, c.corridors].filterMap id).max?
  | _ => none

/-- A reply that leaves the collection as it is. -/
def unchanged (r : Reply) : Outcome := ⟨none, r⟩

/-! ## The collection as a whole -/

/-- Lists the buildings. -/
def listing (c : Collection) : Reply :=
  .buildingList <| c.buildings.map fun b => ⟨b.name, b.totalFloors, some b.id = c.activeId⟩

/-- Makes the first building of a name active. -/
def switchTo (c : Collection) (name : String) : Outcome :=
  match c.findByName? name with
  | some b => ⟨some { c with activeId := some b.id }, .switched b.name b.totalFloors⟩
  | none => unchanged (.buildingNotFound name c.names)

/-- Makes a building, unless its name is taken, and makes it active. -/
def create (c : Collection) (spec : BuildingSpec) (clock : Clock) (stamps : Stamps) :
    Outcome × Stamps :=
  let name := spec.name.getD defaultName
  if (c.findByName? name).isSome then (unchanged (.nameTaken name spec.floors), stamps)
  else
    let (stamp, stamps) := stamps.next clock
    let b := Building.generate ("building-" ++ toString stamp) name spec.floors spec.restrooms
      spec.corridors spec.lifts
    let grown := c.withNewActive b
    (⟨some grown, .created name spec.floors spec.restrooms spec.corridors spec.lifts
      grown.buildings.length⟩, stamps)

/-! ## The active building -/

/-- The outcome of an edit of the active building. -/
def onActive (c : Collection) (edit : Building → Option Building × Reply) : Outcome :=
  match c.active? with
  | none => unchanged .noActiveBuilding
  | some b =>
    let (updated, reply) := edit b
    ⟨updated.map c.withBuilding, reply⟩

/-- The outcome of an edit of the active building that may have none. -/
def onActiveChecked (c : Collection) (edit : Building → Except Fault (Option Building × Reply)) :
    Except Fault Outcome :=
  match c.active? with
  | none => .ok (unchanged .noActiveBuilding)
  | some b => do
    let (updated, reply) ← edit b
    return ⟨updated.map c.withBuilding, reply⟩

/-- The outcome of an edit of the active building that may draw stamps. -/
def onActiveStamped (c : Collection) (stamps : Stamps)
    (edit : Building → Stamps → (Option Building × Reply) × Stamps) : Outcome × Stamps :=
  match c.active? with
  | none => (unchanged .noActiveBuilding, stamps)
  | some b =>
    let ((updated, reply), stamps) := edit b stamps
    (⟨updated.map c.withBuilding, reply⟩, stamps)

/-- The building has no floor of this number. -/
def floorMissing (b : Building) (floor : Nat) : Reply := .floorMissing floor b.name b.floorNumbers

/-- Gives the item at each place the name at the same place, unless that is missing or empty. -/
def renamePositional {α : Type} (setName : α → String → α) : List α → List String → List α
  | [], _ => []
  | items, [] => items
  | a :: items, n :: names =>
    (if n.isEmpty then a else setName a n) :: renamePositional setName items names

/-- How many of the first `items` places have a name that is not empty. -/
def renamedCount (items : Nat) (names : List String) : Nat :=
  ((names.take items).filter fun n => !n.isEmpty).length

/-- Gives names to the floors in order. -/
def nameFloors (b : Building) (names : List String) : Option Building × Reply :=
  let floors := renamePositional (fun f n => { f with name := some n }) b.floors names
  (some { b with floors },
   .floorsRenamed (renamedCount b.floors.length names) (floors.map fun f => (f.number, f.displayName)))

/-- A floor with names given to its components of a kind in order. -/
def renamedOn (kind : ComponentKind) (f : Floor) (names : List String) : Floor :=
  match kind with
  | .restroom =>
    { f with restrooms := renamePositional (fun r n => { r with name := n }) f.restrooms names }
  | .corridor =>
    { f with corridors := renamePositional (fun c n => { c with name := n }) f.corridors names }

/-- The names of the components of a kind on a floor. -/
def namesOn (kind : ComponentKind) (f : Floor) : List String :=
  match kind with
  | .restroom => f.restrooms.map (·.name)
  | .corridor => f.corridors.map (·.name)

/-- Gives names to the components of a kind on the first floor of a number, which then takes the place
of every floor of that number. -/
def nameComponents (b : Building) (kind : ComponentKind) (floor : Nat) (names : List String) :
    Option Building × Reply :=
  match b.floorByNumber? floor with
  | none => (none, floorMissing b floor)
  | some f =>
    let renamed := renamedOn kind f names
    (some (b.mapNumbered floor fun _ => renamed),
     .componentsRenamed kind floor (renamedCount (kind.countOn f) names) (namesOn kind renamed))

/-- A floor with a name given to the component of a kind at a place. -/
def renamedAt (kind : ComponentKind) (slot : Nat) (name : String) (f : Floor) : Floor :=
  match kind with
  | .restroom => { f with restrooms := f.restrooms.modify slot fun r => { r with name } }
  | .corridor => { f with corridors := f.corridors.modify slot fun c => { c with name } }

/-- A floor with a name given to the component of a kind at a place, if there is one. -/
def nameAt (kind : ComponentKind) (slot : Nat) (name : String) (f : Floor) : Except Fault Floor :=
  if slot < kind.countOn f then .ok (renamedAt kind slot name f) else .error .missingComponent

/-- Gives a name to the component of a kind at a place on every floor of a number. Only on the first of
them is the place checked beforehand. -/
def nameComponent (b : Building) (kind : ComponentKind) (floor index : Nat) (name : String) :
    Except Fault (Option Building × Reply) :=
  match b.floorByNumber? floor with
  | none => .ok (none, floorMissing b floor)
  | some f =>
    let available := kind.countOn f
    if index = 0 ∨ available < index then
      .ok (none, .componentMissing kind index floor available)
    else do
      let slot ← difference index 1
      let floors ← b.floors.mapM fun g =>
        if g.number = floor then nameAt kind slot name g else .ok g
      return (some { b with floors }, .componentRenamed kind floor index name)

/-- Gives a name to every floor of a number. -/
def nameFloor (b : Building) (floor : Nat) (name : String) : Option Building × Reply :=
  match b.floorByNumber? floor with
  | none => (none, floorMissing b floor)
  | some _ =>
    (some (b.mapNumbered floor fun f => { f with name := some name }), .floorRenamed floor name)

/-- Adds floors on top. -/
def addFloorsTo (b : Building) (count : Nat) (clock : Clock) (stamps : Stamps) :
    (Option Building × Reply) × Stamps :=
  let (grown, stamps) := b.appendFloors count clock stamps
  ((some grown, .floorsAdded count b.name grown.totalFloors), stamps)

/-- Adds components of a kind to each of some floors in turn. -/
def appendToEach (kind : ComponentKind) (count : Nat) (clock : Clock) :
    List Floor → Stamps → List Floor × Stamps
  | [], stamps => ([], stamps)
  | f :: floors, stamps =>
    let (grown, stamps) := f.appendComponents kind count clock stamps
    let (rest, stamps) := appendToEach kind count clock floors stamps
    (grown :: rest, stamps)

/-- Adds components of a kind to every floor of a building. -/
def appendEverywhere (b : Building) (kind : ComponentKind) (count : Nat) (clock : Clock)
    (stamps : Stamps) : Building × Stamps :=
  let (floors, stamps) := appendToEach kind count clock b.floors stamps
  ({ b with floors }, stamps)

/-- Adds components of a kind to the first floor of a number, which then takes the place of every
floor of that number, or to all floors. -/
def addComponentsTo (b : Building) (kind : ComponentKind) (count : Nat) (floor : Option Nat)
    (clock : Clock) (stamps : Stamps) : (Option Building × Reply) × Stamps :=
  match floor with
  | none =>
    let (grown, stamps) := appendEverywhere b kind count clock stamps
    ((some grown, .componentsAdded kind count none), stamps)
  | some number =>
    match b.floorByNumber? number with
    | none => ((none, .unknownFloor number), stamps)
    | some f =>
      let (grown, stamps) := f.appendComponents kind count clock stamps
      ((some (b.mapNumbered number fun _ => grown), .componentsAdded kind count (some number)), stamps)

/-- The quantity, if it is given and not zero. -/
def positive? (count : Option Nat) : Option Nat := count.filter (0 < ·)

/-- Adds floors on top, if some are asked for, with what to say about it. -/
def growFloors (b : Building) (count : Option Nat) (clock : Clock) (stamps : Stamps) :
    (Building × List String) × Stamps :=
  match positive? count with
  | none => ((b, []), stamps)
  | some n =>
    let (grown, stamps) := b.appendFloors n clock stamps
    ((grown, [counted n "floor"]), stamps)

/-- Adds components of a kind everywhere, if some are asked for, with what to say about it. -/
def growComponents (b : Building) (kind : ComponentKind) (count : Option Nat) (clock : Clock)
    (stamps : Stamps) : (Building × List String) × Stamps :=
  match positive? count with
  | none => ((b, []), stamps)
  | some n =>
    let (grown, stamps) := appendEverywhere b kind n clock stamps
    ((grown, [counted n kind.noun ++ " to each floor"]), stamps)

/-- Adds floors, then restrooms and corridors on all floors, the new ones too. -/
def addMultipleTo (b : Building) (counts : AddCounts) (clock : Clock) (stamps : Stamps) :
    (Option Building × Reply) × Stamps :=
  let ((taller, floors), stamps) := growFloors b counts.floors clock stamps
  let ((wider, restrooms), stamps) := growComponents taller .restroom counts.restrooms clock stamps
  let ((widest, corridors), stamps) := growComponents wider .corridor counts.corridors clock stamps
  ((some widest, .multipleAdded (floors ++ restrooms ++ corridors) b.name widest.totalFloors), stamps)

/-- Takes away the floors with the highest numbers, but never the last floor, and numbers the others
anew. -/
def removeFloorsFrom (b : Building) (count : Nat) : Except Fault (Option Building × Reply) :=
  let removable := min count (b.floors.length - 1)
  if removable = 0 then .ok (none, .lastFloor)
  else do
    let sorted := b.floors.mergeSort fun f g => f.number ≤ g.number
    let left ← difference sorted.length removable
    let updated := Building.synced { b with floors := renumber (sorted.take left) }
    return (some updated, .floorsRemoved removable updated.totalFloors)

/-! ## All intents -/

/-- Carries out an intent whose quantities are acceptable. -/
def carryOut (intent : Intent) (c : Collection) (clock : Clock) (stamps : Stamps) :
    Except Fault (Outcome × Stamps) :=
  match intent with
  | showCommands =>
    .ok (unchanged (.commands c.buildings.length (c.active?.map (·.name))), stamps)
  | listBuildings => .ok (unchanged (listing c), stamps)
  | switchBuilding name => .ok (switchTo c name, stamps)
  | createBuilding spec => .ok (create c spec clock stamps)
  | bulkRename .floors names => .ok (onActive c fun b => nameFloors b names, stamps)
  | bulkRename (.components kind floor) names =>
    .ok (onActive c fun b => nameComponents b kind floor names, stamps)
  | renameComponent kind floor index name =>
    (onActiveChecked c fun b => nameComponent b kind floor index name).map (·, stamps)
  | renameFloor floor name => .ok (onActive c fun b => nameFloor b floor name, stamps)
  | renameBuilding name =>
    .ok (onActive c fun b => (some { b with name }, .buildingRenamed name), stamps)
  | addFloors count => .ok (onActiveStamped c stamps fun b s => addFloorsTo b count clock s)
  | addComponents kind count floor =>
    .ok (onActiveStamped c stamps fun b s => addComponentsTo b kind count floor clock s)
  | addMultiple counts => .ok (onActiveStamped c stamps fun b s => addMultipleTo b counts clock s)
  | removeFloors count => (onActiveChecked c fun b => removeFloorsFrom b count).map (·, stamps)

/-- Carries out an intent on a collection. A quantity above the limit is refused before anything
else is looked at. -/
def apply (intent : Intent) (c : Collection) (clock : Clock) (stamps : Stamps) :
    Except Fault (Outcome × Stamps) :=
  match (requested? intent).filter (maxQuantity < ·) with
  | some n => .ok (unchanged (.tooMany n maxQuantity), stamps)
  | none => intent.carryOut c clock stamps

end Intent

/-- Carries out a line of text. Text in which no intent is recognised changes nothing. -/
def dispatch (c : Collection) (text : String) (clock : Clock) (stamps : Stamps) :
    Except Fault (Outcome × Stamps) :=
  match Intent.parse? text c.active?.isSome with
  | some (_, intent) => intent.apply c clock stamps
  | none => .ok (Intent.unchanged (.forUnknown c), stamps)

end Floorplan
