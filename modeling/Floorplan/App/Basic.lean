import Floorplan.App.LocalCommand
import Floorplan.App.Row
import Floorplan.Session.Basic

set_option autoImplicit false

/-! # The interactive application

Three panels share the keyboard: the list of buildings, the layout of the active building, and the line
that is typed. While a reply is awaited the layout takes no keys and no line is submitted, so that a
request acts on what was there when it was typed. The list of buildings takes its keys all the same.

The clock and the disk are given to every key. -/

namespace Floorplan

/-- The panel that takes the keys. -/
inductive Panel where
  | buildings
  | layout
  | input
  deriving DecidableEq, Repr

namespace Panel

/-- The panel after this one. -/
def next : Panel → Panel
  | buildings => layout
  | layout => input
  | input => buildings

/-- The panel before this one. -/
def previous : Panel → Panel
  | buildings => input
  | layout => buildings
  | input => layout

end Panel

/-- A key. -/
inductive Key where
  | enter
  | escape
  | tab
  | backTab
  | up
  | down
  /-- Taken by no panel, like all keys that are not listed here. -/
  | left
  | pageUp
  | pageDown
  | delete
  | backspace
  | char (c : Char)
  deriving DecidableEq, Repr

/-- The application: a session, what is selected, the typed line, how many rows the transcript is
scrolled up, the last message to the user, since when a reply is awaited, and whether to end. -/
structure App (σ : Type) where
  session : Session σ
  panel : Panel := .input
  selectedBuilding : Nat := 0
  selectedRow : Nat := 0
  line : String := ""
  scroll : Nat := 0
  status : Option String := none
  waitingSince : Option Nat := none
  quit : Bool := false

namespace App

variable {σ : Type}

/-- The rows of the active building. -/
def rows (a : App σ) : List LayoutRow :=
  match a.session.collection.active? with
  | some b => b.layoutRows
  | none => []

/-- What the selected row stands for. -/
def selectedNode? (a : App σ) : Option LayoutNode := (a.rows[a.selectedRow]?).map (·.node)

/-- Keeps the selected row within the rows. -/
def clampRow (a : App σ) : App σ := { a with selectedRow := min a.selectedRow (a.rows.length - 1) }

/-- Selects the active building; another building than before starts at its first row. -/
def syncSelection (a : App σ) : App σ :=
  let selected :=
    match a.session.collection.activeId with
    | none => { a with selectedBuilding := 0 }
    | some id =>
      match a.session.collection.buildings.findIdx? fun (b : Building) => b.id = id with
      | none => a
      | some i =>
        { a with
          selectedBuilding := i
          selectedRow := if i = a.selectedBuilding then a.selectedRow else 0 }
  selected.clampRow

/-- The application at its start: the line is ready to be typed. -/
def ofSession (s : Session σ) : App σ := syncSelection { session := s }

/-- The most rows that the transcript can be scrolled up. -/
def maxScroll : Nat := 65535

/-- How many rows a key scrolls. -/
def scrollStep : Nat := 5

variable [BlobStore σ]

/-- Edits the active building. After a change the transcript shows its end. -/
def edit (a : App σ) (e : Edit) (clock : Clock) : App σ :=
  let (changed, session) := a.session.editStructure (fun b stamps => e.applyTo b clock stamps) clock
  let edited := { a with session, scroll := if changed then 0 else a.scroll }
  edited.clampRow

/-- Puts the beginning of a line into the input. -/
def prefill (a : App σ) (line : String) : App σ := { a with line, panel := .input }

/-! ## Local commands -/

/-- Whether a file was attached to the selected row, going by what the row shows. -/
def uploadStatus (a : App σ) (what path : String) (shows : LayoutRow → Bool) : String :=
  if (a.rows[a.selectedRow]?).any shows then what ++ " attached from " ++ path
  else "Could not read " ++ path

/-- Maps cannot be attached to the selected row. -/
def noMapHere : String := "Maps attach to restrooms and corridors"

/-- Fixtures cannot be attached to the selected row. -/
def noFixtureHere : String := "Fixture photos attach to restrooms only"

/-- Gives a name to a node. -/
def rename (a : App σ) (node : LayoutNode) (name : String) (clock : Clock) : App σ :=
  match node with
  | .floor f => { a.edit (.renameFloor f name) clock with status := none }
  | .restroom f r => { a.edit (.renameComponent .restroom f r name) clock with status := none }
  | .corridor f c => { a.edit (.renameComponent .corridor f c name) clock with status := none }
  | .lift _ _ _ => { a with status := some "Lifts have no name" }

/-- Does a command to a node. -/
def runOn (a : App σ) (node : LayoutNode) (command : RowCommand) (clock : Clock) (disk : Disk) :
    App σ :=
  match command with
  | .map path =>
    match node.component? with
    | some (kind, id) =>
      let attached := { a with session := a.session.uploadMap disk kind node.floorId id path }
      { attached with status := some (attached.uploadStatus "Map" path (·.hasMap)) }
    | none => { a with status := some noMapHere }
  | .unmap =>
    match node.component? with
    | some (kind, id) =>
      { a with
        session := a.session.setMap kind node.floorId id none
        status := some "Map removed" }
    | none => { a with status := some noMapHere }
  | .fixture path =>
    match node with
    | .restroom f r =>
      let attached := { a with session := a.session.uploadFixture disk f r path }
      { attached with status := some (attached.uploadStatus "Fixture photo" path (·.hasFixture)) }
    | _ => { a with status := some noFixtureHere }
  | .unfixture =>
    match node with
    | .restroom f r =>
      { a with
        session := a.session.setFixture f r none
        status := some "Fixture photo removed" }
    | _ => { a with status := some noFixtureHere }
  | .name name => a.rename node name clock

/-- Runs a local command on the selected row. Clearing needs none. -/
def runLocal (a : App σ) (command : LocalCommand) (clock : Clock) (disk : Disk) : App σ :=
  match command with
  | .clear =>
    let cleared := syncSelection { a with session := a.session.clear clock }
    { cleared with status := some "All buildings cleared" }
  | .onRow c =>
    match a.selectedNode? with
    | none => { a with status := some "Select a floor or component in the layout first" }
    | some node => a.runOn node c clock disk

/-! ## Keys -/

/-- Sends the typed line or runs it as a local command. -/
def submit (a : App σ) (clock : Clock) (disk : Disk) : App σ :=
  if a.waitingSince.isSome then a
  else
    let taken := { a with line := "" }
    match LocalCommand.parse? a.line with
    | some (.ok command) => taken.runLocal command clock disk
    | some (.error e) => { taken with status := some e.message }
    | none =>
      match a.session.start a.line clock with
      | (true, session) =>
        { taken with
          session, status := none, scroll := 0
          waitingSince := some (clock.reading session.stamps.last) }
      | (false, session) => { taken with session }

/-- Makes the selected building active and goes to its layout. -/
def activateSelected (a : App σ) : App σ :=
  match a.session.collection.buildings[a.selectedBuilding]? with
  | none => a
  | some b =>
    { a with session := a.session.switchTo b.id, selectedRow := 0, panel := .layout }

/-- Removes what the selected row stands for. -/
def deleteSelected (a : App σ) (clock : Clock) : App σ :=
  match a.selectedNode? with
  | none => a
  | some (.floor f) => a.edit (.removeFloor f) clock
  | some (.restroom f r) => a.edit (.removeComponent .restroom f r) clock
  | some (.corridor f c) => a.edit (.removeComponent .corridor f c) clock
  | some (.lift f c l) => a.edit (.removeLift f c l) clock

/-- Adds a component of a kind to the floor of the selected row. -/
def addComponent (a : App σ) (kind : ComponentKind) (clock : Clock) : App σ :=
  match a.selectedNode? with
  | none => a
  | some node => a.edit (.addComponent kind node.floorId) clock

/-- Adds a lift to the corridor of the selected row. -/
def addLift (a : App σ) (clock : Clock) : App σ :=
  match a.selectedNode? with
  | some (.corridor f c) => a.edit (.addLift f c) clock
  | some (.lift f c _) => a.edit (.addLift f c) clock
  | _ => { a with status := some "Select a corridor to add a lift" }

/-- A key for the list of buildings. -/
def buildingsKeyPress (a : App σ) : Key → App σ
  | .char 'q' => { a with quit := true }
  | .up | .char 'k' => { a with selectedBuilding := a.selectedBuilding - 1 }
  | .down | .char 'j' =>
    if a.selectedBuilding < a.session.collection.buildings.length - 1 then
      { a with selectedBuilding := a.selectedBuilding + 1 }
    else a
  | .enter => a.activateSelected
  | _ => a

/-- A key for the layout. -/
def layoutKeyPress (a : App σ) (key : Key) (clock : Clock) : App σ :=
  if a.waitingSince.isSome then a
  else
    match key with
    | .char 'q' => { a with quit := true }
    | .up | .char 'k' => { a with selectedRow := a.selectedRow - 1 }
    | .down | .char 'j' =>
      -- After the last word comes zero, which is a row again.
      let below := wrap (a.selectedRow + 1)
      if below < a.rows.length then { a with selectedRow := below } else a
    | .char 'f' => a.edit .addFloor clock
    | .char 'r' => a.addComponent .restroom clock
    | .char 'c' => a.addComponent .corridor clock
    | .char 'l' => a.addLift clock
    | .char 'd' | .delete => a.deleteSelected clock
    | .char 'n' => a.prefill ":name "
    | .char 'm' => a.prefill ":map "
    | .char 'x' => a.prefill ":fixture "
    | _ => a

/-- A key for the typed line. -/
def inputKeyPress (a : App σ) (key : Key) (clock : Clock) (disk : Disk) : App σ :=
  match key with
  | .char c => { a with line := a.line.push c }
  | .backspace => { a with line := String.ofList a.line.toList.dropLast }
  | .enter => a.submit clock disk
  | _ => a

/-- A key, perhaps with the control key held. -/
def press (a : App σ) (key : Key) (control : Bool) (clock : Clock) (disk : Disk) : App σ :=
  if control && key = .char 'c' then { a with quit := true }
  else
    match key with
    | .escape => { a with quit := true }
    | .tab => { a with panel := a.panel.next }
    | .backTab => { a with panel := a.panel.previous }
    | .pageUp => { a with scroll := min (a.scroll + scrollStep) maxScroll }
    | .pageDown => { a with scroll := a.scroll - scrollStep }
    | _ =>
      match a.panel with
      | .buildings => a.buildingsKeyPress key
      | .layout => a.layoutKeyPress key clock
      | .input => a.inputKeyPress key clock disk

/-- Answers the awaited line. -/
def receive (a : App σ) (clock : Clock) : Except Fault (App σ) := do
  let (_, session) ← a.session.finish clock
  return { a with session, waitingSince := none }

/-- What happens when the pause before a reply is over: the line is answered, the transcript shows its
end, and the selection follows the active building. -/
def receiveAndFollow (a : App σ) (clock : Clock) : Except Fault (App σ) := do
  let answered ← a.receive clock
  return syncSelection { answered with scroll := 0 }

end App

end Floorplan
