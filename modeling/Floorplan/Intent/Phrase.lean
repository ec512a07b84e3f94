import Floorplan.Pattern.Search
import Floorplan.Building.Basic

set_option autoImplicit false

/-! # Phrases

The patterns by which requests are recognised. They may match anywhere in a text. Group 1 and the
following hold the numbers and names in the order in which the phrase mentions them. Phrases that are
looked for in a text as it was typed ignore case; those of structural edits are looked for in lower
case text and spell their letters exactly. -/

namespace Floorplan.Phrase

open Pattern

/-- A single or double quote that may be missing. -/
def optionalQuote : Pattern := optional (one (.oneOf ['"', '\'']))

/-- A name without quotes inside, perhaps in quotes, as group `i`. -/
def quotableName (i : Nat) : Pattern :=
  sequence [optionalQuote, group i (oneOrMore (.noneOf ['"', '\''])), optionalQuote]

/-- A name without quotes inside, perhaps in quotes, that ends as early as it can, as group `i`. -/
def earliestName (i : Nat) : Pattern :=
  sequence [optionalQuote, group i (oneOrFewMore (.noneOf ['"', '\''])), optionalQuote]

/-- Words of which one is said. -/
def anyWord (ws : List String) : Pattern := choice (ws.map word)

/-- A word in the singular or plural. -/
def singularOrPlural (w : String) : Pattern := sequence [word w, optional (word "s")]

/-- A word with a gap behind it that may both be missing. -/
def optionalWord (w : String) : Pattern := optional (sequence [word w, gap])

/-- One of some words, with gaps on both sides. -/
def between (ws : List String) : Pattern := sequence [gap, anyWord ws, gap]

/-! ## Switching -/

/-- "switch to Tower", "use building Annex", "activate HQ". -/
def switch : List Pattern :=
  [sequence [anyWord ["switch", "change", "go"], between ["to"], optionalWord "building", quotableName 1],
   sequence [anyWord ["select", "use"], gap, optionalWord "building", quotableName 1],
   sequence [anyWord ["activate", "set"], gap, optionalWord "building", quotableName 1]]

/-! ## Renaming -/

/-- A list of names in brackets, as group `i`. -/
def bracketed (i : Nat) : Pattern :=
  sequence [one (.exactly '['), group i (oneOrMore (.noneOf [']'])), one (.exactly ']')]

/-- "rename" or "change". -/
def renameVerb : Pattern := anyWord ["rename", "change"]

/-- "rename all floors to [Ground, First]". -/
def bulkFloors : Pattern :=
  sequence [renameVerb, between ["all"], singularOrPlural "floor", between ["to"], bracketed 1]

/-- "rename all restrooms on floor 1 to [Men, Women]". -/
def bulkComponents (kind : ComponentKind) : Pattern :=
  sequence [renameVerb, between ["all"], singularOrPlural kind.noun, between ["in", "on"], word "floor",
    gap, count 1, between ["to"], bracketed 2]

/-- "rename restroom 1 on floor 2 to Main": index, floor, name. -/
def renameFloorFirst (kind : ComponentKind) : Pattern :=
  sequence [renameVerb, gap, word kind.noun, gap, count 1, between ["in", "on", "of"], word "floor",
    gap, count 2, between ["to"], quotableName 3]

/-- "rename restroom 1 to Main on floor 2": index, name, floor. -/
def renameNameFirst (kind : ComponentKind) : Pattern :=
  sequence [renameVerb, gap, word kind.noun, gap, count 1, between ["to"], quotableName 2,
    between ["in", "on", "of"], word "floor", gap, count 3]

/-- A colon or an equals sign, perhaps with white space around it. -/
def assignment : Pattern := sequence [space, one (.oneOf [':', '=']), space]

/-- "rename floor 1 to Lobby", "floor 1: Lobby", "call floor 1 Lobby". -/
def renameFloor : List Pattern :=
  [sequence [renameVerb, between ["floor"], count 1, between ["to"], quotableName 2],
   sequence [word "floor", gap, count 1, assignment, quotableName 2],
   sequence [word "call", between ["floor"], count 1, gap, quotableName 2]]

/-- "change building name to HQ", "name: HQ", "call the building HQ". -/
def renameBuilding : List Pattern :=
  [sequence [anyWord ["change", "rename", "update", "set"], gap, optionalWord "building", word "name",
     between ["to"], quotableName 1],
   sequence [optionalWord "building", word "name", assignment, quotableName 1],
   sequence [word "call", gap, optionalWord "the", word "building", gap, quotableName 1]]

/-! ## Creating -/

/-- "named" or "named as", which may be missing. -/
def optionalNamed : Pattern := optional (sequence [word "named", gap, optionalWord "as"])

/-- A name that goes up to the word "with". -/
def nameBeforeWith : Pattern := sequence [earliestName 1, gap, word "with"]

/-- A name that goes up to the end of the text. -/
def nameAtEnd : Pattern := sequence [earliestName 1, atEnd]

/-- The phrases that name a building to be created; the first that matches gives the name. -/
def createName : List Pattern :=
  [sequence [anyWord ["create", "build"], gap, optionalWord "building", nameBeforeWith],
   sequence [word "add", gap, optionalWord "new", word "building", gap, optionalNamed, nameBeforeWith],
   sequence [anyWord ["build", "create"], between ["building"], anyWord ["called", "named"], gap,
     nameAtEnd],
   sequence [anyWord ["create", "build"], between ["building"], nameAtEnd],
   sequence [word "add", gap, optionalWord "new", word "building", gap, optionalNamed, nameAtEnd],
   sequence [anyWord ["create", "build"], gap, optionalWord "the", optionalWord "new", word "building",
     gap, optionalWord "and", optionalNamed, nameAtEnd]]

/-- A number followed by one of some units. -/
def quantity (units : List Pattern) : Pattern := sequence [count 1, space, choice units]

/-- "3 floors", "3 stories". -/
def floorQuantity : Pattern := quantity [singularOrPlural "floor", word "stories", word "levels"]

/-- "2 restrooms", "2 toilets". -/
def restroomQuantity : Pattern :=
  quantity [singularOrPlural "restroom", singularOrPlural "bathroom", singularOrPlural "toilet"]

/-- "1 corridor", "1 hallway". -/
def corridorQuantity : Pattern := quantity [singularOrPlural "corridor", singularOrPlural "hallway"]

/-- "2 lifts", "2 elevators". -/
def liftQuantity : Pattern := quantity [singularOrPlural "lift", singularOrPlural "elevator"]

/-! ## Adding and removing, in lower case -/

/-- A lower case word in the singular or plural. -/
def nouns (w : String) : Pattern := sequence [exactly w, optional (exactly "s")]

/-- A number, perhaps the word "more", and a noun. -/
def moreOf (w : String) : Pattern :=
  sequence [count 1, space, optional (sequence [exactly "more", gap]), nouns w]

/-- "add 2 more restrooms". -/
def add (w : String) : Pattern := sequence [exactly "add", gap, moreOf w]

/-- One of the prepositions in front of a floor, with a gap on both sides, and the word "floor". -/
def onFloor : Pattern :=
  sequence [gap, choice [exactly "to", exactly "in", exactly "on"], gap, exactly "floor"]

/-- "add 3 restrooms in floor 5". -/
def addToFloor (w : String) : Pattern := sequence [add w, onFloor, gap, count 2]

/-- What makes an addition one of a combination: "and" or a comma. -/
def conjunction : Pattern :=
  choice [sequence [gap, exactly "and"], sequence [space, one (.exactly ',')]]

/-- A number of floors somewhere behind "add" on the same line. -/
def addedFloors : Pattern := sequence [exactly "add", gap, few .sameLine, moreOf "floor"]

/-- A mention of a floor by its number. -/
def floorMention : Pattern :=
  sequence [choice [exactly "to", exactly "in", exactly "on"], gap, exactly "floor", gap,
    oneOrMore .digit]

/-- "remove 2 floors". -/
def removeFloors : Pattern := sequence [exactly "remove", gap, count 1, space, nouns "floor"]

end Floorplan.Phrase
