import Floorplan.App.Basic
import Floorplan.Screen.Palette
import Floorplan.Screen.Wrap
import Floorplan.Text.Lines

set_option autoImplicit false

/-! # The transcript on the screen

Every message is shown under its sender and time and followed by an empty line; while a reply is awaited
a last line says so. Lines are wrapped to the width of the panel.

The panel is scrolled to the end. Where the end is, is reckoned as if lines were cut at the width of the
panel wherever that falls; breaking them at words can take more rows than that. -/

namespace Floorplan

open Screen

namespace Message

/-- Content without its marks of emphasis. -/
def withoutEmphasis : List Char → List Char
  | [] => []
  | '*' :: '*' :: rest => withoutEmphasis rest
  | c :: rest => c :: withoutEmphasis rest

/-- The name of the sender, in its colour. -/
def senderSpan (m : Message) : Span :=
  match m.sender with
  | .user => ⟨"You".toList, { orange.style with bold := true }⟩
  | .assistant => ⟨"Assistant".toList, { accent.style with bold := true }⟩

/-- The lines of a message. -/
def screenLines (m : Message) : List (List Span) :=
  [m.senderSpan, ⟨' ' :: ' ' :: m.time.clockChars, muted.style⟩] ::
    ((Text.lines m.content.toList).map fun line => [{ text := withoutEmphasis line }]) ++ [[]]

end Message

namespace App

variable {σ : Type}

/-- How long a picture of the waiting sign stays, in milliseconds. -/
def tick : Nat := 100

/-- The pictures of the waiting sign. -/
def waitingPictures : List String := ["·  ", "·· ", "···", " ··"]

/-- The line that is shown while a reply is awaited. -/
def waitingLine? (a : App σ) (now : Nat) : Option (List Span) :=
  a.waitingSince.map fun since =>
    let picture := waitingPictures.getD ((now - since) / tick % waitingPictures.length) ""
    [⟨("Assistant is thinking " ++ picture).toList, { muted.style with italic := true }⟩]

/-- The lines of the transcript. -/
def transcriptLines (a : App σ) (now : Nat) : List (List Span) :=
  a.session.messages.flatMap Message.screenLines ++ (a.waitingLine? now).toList

end App

namespace Screen

/-- How many rows a line takes if it is cut at the width. -/
def cutHeight (width : Nat) (line : List Span) : Nat :=
  if width = 0 then 1 else max 1 ((Span.total line + width - 1) / width)

/-- How many rows lines take if they are cut at the width. -/
def totalCutHeight (width : Nat) : List (List Span) → Nat
  | [] => 0
  | line :: rest => cutHeight width line + totalCutHeight width rest

/-- The first row that is shown of lines in an area, if the area is scrolled up from the end by a number
of rows. -/
def scrollOffset (lines : List (List Span)) (width height scrolledUp : Nat) : Nat :=
  min (totalCutHeight width lines - height - scrolledUp) App.maxScroll

/-- The rows of lines that are wrapped to a width. -/
def wrappedRows (lines : List (List Span)) (width : Nat) : List (List Glyph) :=
  lines.flatMap fun line => wrapped width (line.flatMap Span.glyphs)

/-- The rows that are in view from an offset on. Row numbers beyond `App.maxScroll` are not drawn. -/
def rowsInView (lines : List (List Span)) (width height offset : Nat) : List (List Glyph) :=
  if App.maxScroll < offset + height then []
  else ((wrappedRows lines width).drop offset).take height

end Screen

namespace App

variable {σ : Type}

/-- The rows of the transcript in view. -/
def transcriptRows (a : App σ) (now width height : Nat) : List (List Glyph) :=
  let lines := a.transcriptLines now
  rowsInView lines width height (scrollOffset lines width height a.scroll)

end App

end Floorplan
