import Floorplan.Image.DataUri
import Floorplan.Intent.Apply
import Floorplan.Reply.Message
import Floorplan.Store.Saved

set_option autoImplicit false

/-! # Sessions

A session holds the collection and the transcript, and saves what changes under its keys after every
change. A line of text is taken up and answered in two steps; between them the session is busy and
takes up no other line. Whether saving succeeds has no influence on anything else.

The clock is given to every step that reads it. -/

namespace Floorplan

/-- A conversation about a collection, kept in a store. -/
structure Session (σ : Type) where
  store : σ
  collection : Collection
  messages : List Message
  /-- The line that is being answered. -/
  pending : Option String := none
  stamps : Stamps := {}

/-- The transcript of a new conversation that begins at a time in nanoseconds. -/
def welcomeMessages (now : Nat) : List Message :=
  [⟨"welcome", .assistant, Reply.welcome.message, .ofNanos now⟩]

namespace Session

variable {σ : Type} [BlobStore σ]

/-- The session that goes on with what is in a store. -/
def restore (store : σ) (clock : Clock) : Session σ :=
  { store
    collection := Saved.loadOr store buildingsKey Collection.empty
    messages := Saved.loadOr store messagesKey (welcomeMessages (clock.nanos 0)) }

/-- Is a line being answered? -/
def isProcessing (s : Session σ) : Bool := s.pending.isSome

/-- Takes over a collection and saves it. -/
def commit (s : Session σ) (c : Collection) : Session σ :=
  { s with collection := c, store := Saved.save s.store buildingsKey c }

/-- Adds a message to the transcript and saves it. Its id is a stamp; for its time the clock is read
again. -/
def push (s : Session σ) (sender : Sender) (content : String) (clock : Clock) : Session σ :=
  let (stamp, stamps) := s.stamps.next clock
  let messages := s.messages ++ [⟨toString stamp, sender, content, .ofNanos (clock.nanos stamp)⟩]
  { s with stamps, messages, store := Saved.save s.store messagesKey messages }

/-! ## Lines of text -/

/-- Takes up a line of text, and says whether it did: not if it is blank or another one is being
answered. -/
def start (s : Session σ) (text : String) (clock : Clock) : Bool × Session σ :=
  if s.isProcessing || Text.allBlank text then (false, s)
  else (true, { s.push .user text clock with pending := some text })

/-- Answers the line that was taken up, if there is one. -/
def finish (s : Session σ) (clock : Clock) : Except Fault (Option String × Session σ) :=
  match s.pending with
  | none => .ok (none, s)
  | some text =>
    match dispatch s.collection text clock s.stamps with
    | .error fault => .error fault
    | .ok (outcome, stamps) =>
      let idle := { s with pending := none, stamps }
      let committed :=
        match outcome.collection with
        | some c => idle.commit c
        | none => idle
      let reply := outcome.reply.message
      .ok (some reply, committed.push .assistant reply clock)

/-- Takes up a line of text and answers it. -/
def send (s : Session σ) (text : String) (clock : Clock) :
    Except Fault (Option String × Session σ) :=
  match s.start text clock with
  | (true, busy) => busy.finish clock
  | (false, same) => .ok (none, same)

/-! ## Attachments -/

/-- Edits the active building, if there is one. -/
def editActive (s : Session σ) (edit : Building → Building) : Session σ :=
  match s.collection.active? with
  | none => s
  | some b => s.commit (s.collection.withBuilding (edit b))

/-- Sets or takes away the map of a component. -/
def setMap (s : Session σ) (kind : ComponentKind) (floorId componentId : String)
    (map : Option String) : Session σ :=
  s.editActive fun b => b.mapFloor floorId fun f =>
    match kind with
    | .restroom => f.mapRestroom componentId fun r => { r with map }
    | .corridor => f.mapCorridor componentId fun c => { c with map }

/-- Sets or takes away the fixture of a restroom. -/
def setFixture (s : Session σ) (floorId restroomId : String) (fixture : Option String) : Session σ :=
  s.editActive fun b => b.mapFloor floorId fun f =>
    f.mapRestroom restroomId fun r => { r with fixture }

/-- Attaches a file as the map of a component; a file that cannot be read changes nothing. -/
def uploadMap (s : Session σ) (disk : Disk) (kind : ComponentKind) (floorId componentId path : String) :
    Session σ :=
  match DataUri.read disk path with
  | .ok uri => s.setMap kind floorId componentId (some uri)
  | .error _ => s

/-- Attaches a file as the fixture of a restroom; a file that cannot be read changes nothing. -/
def uploadFixture (s : Session σ) (disk : Disk) (floorId restroomId path : String) : Session σ :=
  match DataUri.read disk path with
  | .ok uri => s.setFixture floorId restroomId (some uri)
  | .error _ => s

/-! ## Structure -/

/-- Replaces the buildings with the id of a building, and confirms it in the transcript. -/
def updateBuilding (s : Session σ) (b : Building) (clock : Clock) : Session σ :=
  (s.commit (s.collection.withBuilding b.synced)).push .assistant
    Reply.configurationUpdated.message clock

/-- Edits the active building, and says whether that changed it. -/
def editStructure (s : Session σ) (edit : Building → Stamps → Building × Stamps)
    (clock : Clock) : Bool × Session σ :=
  match s.collection.active? with
  | none => (false, s)
  | some b =>
    let (edited, stamps) := edit b s.stamps
    let drawn := { s with stamps }
    if edited == b then (false, drawn) else (true, drawn.updateBuilding edited clock)

/-- Forgets all buildings and begins the transcript anew. -/
def clear (s : Session σ) (clock : Clock) : Session σ :=
  let messages := welcomeMessages (clock.nanos s.stamps.last)
  let store := Saved.save (Saved.forget s.store buildingsKey) messagesKey messages
  { s with collection := .empty, messages, pending := none, store }

/-- Makes the building with an id active, if there is one. -/
def switchTo (s : Session σ) (id : String) : Session σ :=
  match s.collection.findById? id with
  | none => s
  | some _ => s.commit { s.collection with activeId := some id }

end Session

end Floorplan
