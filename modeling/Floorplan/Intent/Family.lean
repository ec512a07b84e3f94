import Floorplan.Intent.Basic
import Floorplan.Intent.Phrase
import Floorplan.Text.Lowercase
import Floorplan.Text.Search

set_option autoImplicit false

/-! # Recognising intents

A family recognises one kind of request in a text, or does not. The families are tried in a fixed
order, and the first that recognises the text decides; most of the renaming families are only tried
while a building is active. -/

namespace Floorplan

namespace Match

/-- The number in a group, if it is written in ASCII digits and fits a word. -/
def number? (m : Match) (i : Nat) : Option Nat := (m.group? i).bind Text.word?

/-- The text of a group without white space around it, unless nothing else is there. -/
def name? (m : Match) (i : Nat) : Option String :=
  (m.group? i).bind fun s =>
    match Text.trimChars s with
    | [] => none
    | t => some (String.ofList t)

end Match

namespace Intent

open Pattern

/-- Quotes that are taken out of the names in a list, straight and curly. -/
def listQuotes : List Char := ['"', '\'', '“', '”', '‘', '’']

/-- The names in a list separated by commas. A name may be empty, so that later names keep their
places. -/
def bracketNames (s : List Char) : List String :=
  (Text.splitAt ',' s).map fun piece =>
    String.ofList (Text.trimChars (Text.without listQuotes piece))

/-- The name of a building that is created without one. -/
def defaultName : String := "My Building"

/-- The first name that one of the patterns finds. -/
def firstName? (patterns : List Pattern) (text : List Char) : Option String :=
  patterns.findSome? fun p => (p.find? text).bind (·.name? 1)

/-- The number in front of the first of some units. -/
def quantity? (p : Pattern) (text : List Char) : Option Nat := (p.find? text).bind (·.number? 1)

/-- "show commands", "what can you do". -/
def showCommands? (text : List Char) : Option Intent :=
  let lower := Text.lowerChars text
  if Text.containsAny ["show", "list", "what"] lower &&
      Text.containsAny ["command", "help", "can you do"] lower then
    some .showCommands
  else none

/-- "list all buildings", "buildings". -/
def listBuildings? (text : List Char) : Option Intent :=
  let lower := Text.lowerChars text
  if (Text.containsAny ["list"] lower && Text.containsAny ["building", "all"] lower) ||
      lower = "buildings".toList || Text.containsAny ["show all buildings"] lower then
    some .listBuildings
  else none

/-- "switch to Tower", "use building Annex". -/
def switchBuilding? (text : List Char) : Option Intent :=
  (firstName? Phrase.switch text).map .switchBuilding

/-- The names that a floor's components of a kind are to be given. -/
def bulkComponents? (kind : ComponentKind) (m : Match) : Option Intent := do
  let floor ← m.number? 1
  let names ← m.group? 2
  return .bulkRename (.components kind floor) (bracketNames names)

/-- "rename all floors to [Ground, First]", and the same for the components of one floor. -/
def bulkRename? (text : List Char) : Option Intent :=
  if Text.containsAny ["rename all", "change all"] (Text.lowerChars text) then
    match Phrase.bulkFloors.find? text with
    | some m => (m.group? 1).map fun names => .bulkRename .floors (bracketNames names)
    | none =>
      match (Phrase.bulkComponents .restroom).find? text with
      | some m => bulkComponents? .restroom m
      | none => ((Phrase.bulkComponents .corridor).find? text).bind (bulkComponents? .corridor)
  else none

/-- "rename restroom 1 on floor 2 to Main", or with the name before the floor. -/
def renameComponent? (kind : ComponentKind) (text : List Char) : Option Intent :=
  match (Phrase.renameFloorFirst kind).find? text with
  | some m => do
    return .renameComponent kind (← m.number? 2) (← m.number? 1) (← m.name? 3)
  | none => do
    let m ← (Phrase.renameNameFirst kind).find? text
    return .renameComponent kind (← m.number? 3) (← m.number? 1) (← m.name? 2)

/-- "rename floor 1 to Lobby", "floor 1: Lobby". -/
def renameFloor? (text : List Char) : Option Intent :=
  Phrase.renameFloor.findSome? fun p => do
    let m ← p.find? text
    return .renameFloor (← m.number? 1) (← m.name? 2)

/-- "change building name to HQ", "name: HQ". -/
def renameBuilding? (text : List Char) : Option Intent :=
  (firstName? Phrase.renameBuilding text).map .renameBuilding

/-- What "default" asks for. -/
def defaultSpec : BuildingSpec := ⟨some defaultName, 5, 2, 2, 2⟩

/-- Does a lower case text speak of making something? -/
def asksToCreate (lower : List Char) : Bool :=
  Text.containsAny ["create", "build"] lower ||
    (Text.containsAny ["add"] lower && Text.containsAny ["building"] lower)

/-- The name of the building to be created, from the first phrase that matches. -/
def creationName? (text : List Char) : Option String :=
  (Phrase.createName.findSome? (·.find? text)).bind (·.name? 1)

/-- "create default building", "create Tower with 4 floors, 2 restrooms". A building is created with
quantities if floors and restrooms or corridors are counted, and else by a name. -/
def createBuilding? (text : List Char) : Option Intent :=
  let lower := Text.lowerChars text
  if Text.containsAny ["default"] lower then some (.createBuilding defaultSpec)
  else if asksToCreate lower then
    let name := creationName? text
    let restrooms := quantity? Phrase.restroomQuantity text
    let corridors := quantity? Phrase.corridorQuantity text
    match quantity? Phrase.floorQuantity text with
    | some floors =>
      if restrooms.isSome || corridors.isSome then
        some (.createBuilding ⟨name, floors, restrooms.getD 2, corridors.getD 1,
          (quantity? Phrase.liftQuantity text).getD 2⟩)
      else name.map fun n => .createBuilding ⟨some n, 3, 2, 2, 2⟩
    | none => name.map fun n => .createBuilding ⟨some n, 3, 2, 2, 2⟩
  else none

/-! ## Structural edits, in lower case -/

/-- "add 3 restrooms in floor 5". -/
def addToFloor? (kind : ComponentKind) (lower : List Char) : Option Intent := do
  let m ← (Phrase.addToFloor kind.noun).find? lower
  return .addComponents kind (← m.number? 1) (some (← m.number? 2))

/-- "add 2 restrooms", when no floor is named behind it. -/
def addEverywhere? (kind : ComponentKind) (lower : List Char) : Option Intent := do
  let m ← (Phrase.add kind.noun).findUnlessFollowed? Phrase.onFloor lower
  return .addComponents kind (← m.number? 1) none

/-- "add 2 floors", when nothing is joined to it. -/
def addFloors? (lower : List Char) : Option Intent :=
  if Text.containsAny ["restroom", "corridor"] lower then none
  else do
    let m ← (Phrase.add "floor").findUnlessFollowed? Phrase.conjunction lower
    return .addFloors (← m.number? 1)

/-- The quantities of a combined addition; restrooms and corridors only count if no floor is named. -/
def combinedCounts (lower : List Char) : AddCounts :=
  let named := Phrase.floorMention.occursIn lower
  let component (kind : ComponentKind) : Option Nat :=
    if named then none else quantity? (Phrase.moreOf kind.noun) lower
  ⟨quantity? Phrase.addedFloors lower, component .restroom, component .corridor⟩

/-- "add 1 floor and 2 restrooms": at least two quantities. -/
def addMultiple? (lower : List Char) : Option Intent :=
  if Text.containsAny ["add"] lower && Text.containsAny ["corridor", "restroom", "floor"] lower then
    let counts := combinedCounts lower
    if 1 < counts.given then some (.addMultiple counts) else none
  else none

/-- "remove 2 floors"; one floor if no number is recognised, and as many as a word can count if the
number does not fit one. -/
def removeFloors? (lower : List Char) : Option Intent :=
  if Text.containsAny ["remove"] lower && Text.containsAny ["floor"] lower then
    match Phrase.removeFloors.find? lower with
    | none => some (.removeFloors 1)
    | some m => some (.removeFloors ((m.number? 1).getD (wordLimit - 1)))
  else none

/-- Additions to the active building and removals of floors, tried from the most special. Text that
speaks of adding a building with something is none of them. -/
def editStructure? (text : List Char) : Option Intent :=
  let lower := Text.lowerChars text
  if Text.containsAny ["add"] lower && Text.containsAny ["building"] lower &&
      Text.containsAny ["with"] lower then
    none
  else
    -- A floor that is named is not to be taken for a quantity, so it goes first.
    addToFloor? .restroom lower
      <|> addToFloor? .corridor lower
      <|> addEverywhere? .restroom lower
      <|> addEverywhere? .corridor lower
      <|> addFloors? lower
      <|> addMultiple? lower
      <|> removeFloors? lower

end Intent

/-! ## The families -/

/-- The families of requests. -/
inductive Family where
  | showCommands
  | listBuildings
  | switchBuilding
  | bulkRename
  | restroomRename
  | corridorRename
  | floorRename
  | buildingRename
  | createBuilding
  | editStructure
  deriving DecidableEq, Repr

namespace Family

/-- The families in the order in which they are tried. -/
def all : List Family :=
  [showCommands, listBuildings, switchBuilding, bulkRename, restroomRename, corridorRename,
   floorRename, buildingRename, createBuilding, editStructure]

/-- The name of a family. -/
def name : Family → String
  | showCommands => "show-commands"
  | listBuildings => "list-buildings"
  | switchBuilding => "switch-building"
  | bulkRename => "bulk-rename"
  | restroomRename => "restroom-rename"
  | corridorRename => "corridor-rename"
  | floorRename => "floor-rename"
  | buildingRename => "building-rename"
  | createBuilding => "create-building"
  | editStructure => "edit-structure"

/-- Is the family only tried while a building is active? -/
def needsActive : Family → Bool
  | bulkRename | restroomRename | corridorRename | floorRename | buildingRename => true
  | _ => false

/-- What the family recognises in a text. -/
def recognize? : Family → List Char → Option Intent
  | showCommands => Intent.showCommands?
  | listBuildings => Intent.listBuildings?
  | switchBuilding => Intent.switchBuilding?
  | bulkRename => Intent.bulkRename?
  | restroomRename => Intent.renameComponent? .restroom
  | corridorRename => Intent.renameComponent? .corridor
  | floorRename => Intent.renameFloor?
  | buildingRename => Intent.renameBuilding?
  | createBuilding => Intent.createBuilding?
  | editStructure => Intent.editStructure?

end Family

/-- The intent of a text and the family that recognised it. -/
def Intent.parse? (text : String) (hasActive : Bool) : Option (Family × Intent) :=
  (Family.all.filter fun f => hasActive || !f.needsActive).findSome? fun f =>
    (f.recognize? text.toList).map fun intent => (f, intent)

end Floorplan
