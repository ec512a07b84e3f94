import Floorplan.Screen.Frame
import Floorplan.Screen.Transcript

set_option autoImplicit false

/-! # The screen of the application

The heading stands above the panels and the help below them. The panels stand side by side and take a
fifth, three tenths and half of the width; below the transcript, in the last of them, is the line that
is typed. Everything is put together from rows of cells, so that nothing overlaps. -/

namespace Floorplan

open Screen

namespace Screen

/-- How high the heading, the help and the typed line are. -/
def barHeight : Nat := 3

/-- The first row of a list that is shown, so that the selected one is the last at the most. -/
def listOffset (selected visible : Nat) : Nat :=
  if visible ≤ selected then selected - visible + 1 else 0

/-- Pictures side by side. -/
def beside (left right : List (List Cell)) : List (List Cell) := left.zipWith (· ++ ·) right

end Screen

/-- The row of a building in the list of buildings. -/
def Building.screenLine (b : Building) (style : Style) (isActive : Bool) : List Span :=
  [⟨b.name.toList, style⟩, ⟨[' '], {}⟩, ⟨("(" ++ toString b.totalFloors ++ ")").toList, green.style⟩] ++
    if isActive then [⟨" ●".toList, orange.style⟩] else []

/-- A row of the layout on the screen. -/
def LayoutRow.screenLine (r : LayoutRow) (style : Style) : List Span :=
  [⟨List.replicate (2 * r.depth) ' ', {}⟩, ⟨r.label.toList, style⟩] ++
    (if r.hasMap then [⟨" [map]".toList, green.style⟩] else []) ++
    (if r.hasFixture then [⟨" [photo]".toList, green.style⟩] else [])

/-- The keys that a panel takes. -/
def Panel.help : Panel → String
  | .buildings => " ↑↓ Building | Enter Activate | Tab Panel | q Quit "
  | .layout =>
    " ↑↓ Row | f Floor | r Restroom | c Corridor | l Lift | d Delete | n Name | m Map | x Photo | Tab Panel "
  | .input =>
    " Enter Send | :map :fixture :unmap :unfixture :name :clear | PgUp/PgDn Scroll | Esc Quit "

namespace App

variable {σ : Type}

/-- The heading. -/
def drawHeading (a : App σ) (width : Nat) : List (List Cell) :=
  let c := a.session.collection
  let active :=
    match c.active? with
    | some b => b.name ++ " (" ++ toString b.totalFloors ++ " floors)"
    | none => "no active building"
  let text := " SiteWise | " ++ toString c.buildings.length ++ " buildings | " ++ active ++ " "
  let f : Frame := { width, height := barHeight, base := headingStyle }
  f.draw [cutRow f.innerWidth f.base [{ text := Text.firstLine text.toList }]]

/-- The list of buildings. -/
def drawBuildings (a : App σ) (width height : Nat) : List (List Cell) :=
  let c := a.session.collection
  let focused := a.panel = .buildings
  let f : Frame :=
    { width, height
      title := " Buildings (" ++ toString c.buildings.length ++ ") "
      border := borderStyle focused }
  f.draw (c.buildings.zipIdx.map fun (b, i) =>
    listRow f.innerWidth
      (b.screenLine (rowStyle (i = a.selectedBuilding) focused) (c.activeId = some b.id)))

/-- The style of a row of the layout: floors are headings unless they are selected. -/
def layoutRowStyle (a : App σ) (r : LayoutRow) (index : Nat) : Style :=
  if r.depth = 0 ∧ index ≠ a.selectedRow then headingStyle
  else rowStyle (index = a.selectedRow) (a.panel = .layout)

/-- The rows of the layout that are shown where there is room for some, with their places. -/
def shownRows (a : App σ) (visible : Nat) : List (LayoutRow × Nat) :=
  (a.rows.zipIdx.drop (listOffset a.selectedRow visible)).take visible

/-- The layout of the active building, with a scrollbar if it has more rows than there is room for. -/
def drawLayout (a : App σ) (width height : Nat) : List (List Cell) :=
  let rows := a.rows
  let visible := height - 2
  let f : Frame :=
    { width, height
      title :=
        match a.session.collection.active? with
        | some b => " Layout: " ++ b.name ++ " "
        | none => " Layout "
      border := borderStyle (a.panel = .layout)
      rightEdge := if visible < rows.length then scrollbar visible rows.length a.selectedRow else [] }
  f.draw ((a.shownRows visible).map fun (r, i) =>
    listRow f.innerWidth (r.screenLine (a.layoutRowStyle r i)))

/-- The transcript. -/
def drawTranscript (a : App σ) (now width height : Nat) : List (List Cell) :=
  let f : Frame :=
    { width, height, title := " Chat (" ++ toString a.session.messages.length ++ ") " }
  f.draw ((a.transcriptRows now f.innerWidth f.innerHeight).map (paragraphRow f.innerWidth f.base))

/-- What the input shows: that a reply is awaited, or the line, with a cursor if it can be typed. -/
def inputText (a : App σ) : String :=
  if a.session.pending.isSome then "Waiting for reply..."
  else if a.panel = .input then a.line ++ "▏"
  else a.line

/-- The input. -/
def drawInput (a : App σ) (width : Nat) : List (List Cell) :=
  let focused := a.panel = .input
  let f : Frame :=
    { width, height := barHeight, title := " Message "
      base := if a.session.pending.isSome || !focused then muted.style else {}
      border := borderStyle focused }
  f.draw [cutRow f.innerWidth f.base [{ text := Text.firstLine a.inputText.toList }]]

/-- The help, behind the last message to the user if there is one. -/
def drawHelp (a : App σ) (width : Nat) : List (List Cell) :=
  let f : Frame := { width, height := barHeight }
  let help : Span := ⟨a.panel.help.toList, muted.style⟩
  let spans :=
    match a.status with
    | some status => [⟨(" " ++ status ++ " ").toList, orange.style⟩, ⟨['|'], muted.style⟩, help]
    | none => [help]
  f.draw [cutRow f.innerWidth f.base spans]

/-- The screen of the application at a time: its rows from top to bottom. The panels begin at the
places nearest to a fifth and to half of the width. -/
def draw (a : App σ) (now width height : Nat) : List (List Cell) :=
  let middle := height - 2 * barHeight
  -- Halves are rounded up.
  let layoutStart := (2 * width + 5) / 10
  let chatStart := (width + 1) / 2
  let chatWidth := width - chatStart
  let chat := a.drawTranscript now chatWidth (middle - barHeight) ++ a.drawInput chatWidth
  a.drawHeading width ++
    beside (a.drawBuildings layoutStart middle)
      (beside (a.drawLayout (chatStart - layoutStart) middle) chat) ++
    a.drawHelp width

end App

end Floorplan
