import Floorplan.Json.Record
import Floorplan.Message.Timestamp

set_option autoImplicit false

/-! # Messages

The transcript of a conversation is a list of messages. A message is saved with its sender under the
name "type". -/

namespace Floorplan

/-- Who wrote a message. -/
inductive Sender where
  | user
  | assistant
  deriving DecidableEq, Repr

/-- One entry of the transcript. -/
structure Message where
  id : String
  sender : Sender
  content : String
  time : Timestamp
  deriving DecidableEq, Repr

namespace Sender

/-- The sender in saved messages. -/
def word : Sender → String
  | user => "user"
  | assistant => "assistant"

/-- The sender with a word. -/
def ofWord? (w : String) : Option Sender :=
  if w = "user" then some user else if w = "assistant" then some assistant else none

/-- The sender in a document: the word, or an object with the word as the name of its only member,
which is null. -/
def ofJson? : Json → Option Sender
  | .string (some w) => ofWord? w
  | .object [(some w, .null)] => ofWord? w
  | _ => none

end Sender

namespace Message

/-- The message as a document. -/
def toJson (m : Message) : Json :=
  .record [("id", .ofText m.id), ("type", .ofText m.sender.word), ("content", .ofText m.content),
    ("timestamp", .ofText m.time.toText)]

/-- The message in a document. -/
def ofJson? (j : Json) : Option Message :=
  match Json.fields? ["id", "type", "content", "timestamp"] 4 j with
  | some [id, sender, content, time] => do
    return { id := ← Json.required? Json.toText? id
             sender := ← Json.required? Sender.ofJson? sender
             content := ← Json.required? Json.toText? content
             time := ← (← Json.required? Json.toText? time) |> Timestamp.ofText? }
  | _ => none

end Message

end Floorplan
