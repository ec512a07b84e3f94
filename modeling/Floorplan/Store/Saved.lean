import Floorplan.Building.Record
import Floorplan.Message.Basic
import Floorplan.Store.Blob

set_option autoImplicit false

/-! # Saved values

Values are saved as compact documents. Whatever goes wrong in loading yields a given value instead,
and what goes wrong in saving or forgetting is passed over. -/

namespace Floorplan

/-- The key of the buildings. -/
def buildingsKey : String := "sitewise_buildings_data"

/-- The key of the transcript. -/
def messagesKey : String := "sitewise_chat_messages"

/-- Values that can be saved. -/
class Saved (α : Type) where
  /-- The value as a document. -/
  toJson : α → Json
  /-- The value in a document. -/
  ofJson? : Json → Option α

instance : Saved Collection := ⟨Collection.toJson, Collection.ofJson?⟩

instance : Saved (List Message) :=
  ⟨fun ms => .array (ms.map Message.toJson), Json.toList? Message.ofJson?⟩

namespace Saved

variable {α σ : Type} [Saved α] [BlobStore σ]

/-- The text under which a value is saved. -/
def text (a : α) : String := (toJson a).compact

/-- The value that a text was saved for. Blank text holds none. -/
def ofText? (s : String) : Option α := if Text.allBlank s then none else (Json.parse? s).bind ofJson?

/-- The value under a key, or a default if there is none that can be read. -/
def loadOr (store : σ) (key : String) (default : α) : α :=
  match BlobStore.get store key with
  | .ok (some s) => (ofText? s).getD default
  | _ => default

/-- Saves a value under a key. -/
def save (store : σ) (key : String) (a : α) : σ := (BlobStore.set store key (text a)).1

/-- Forgets what is under a key. -/
def forget (store : σ) (key : String) : σ := (BlobStore.remove store key).1

end Saved

end Floorplan
