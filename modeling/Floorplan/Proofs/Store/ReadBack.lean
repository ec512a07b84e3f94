import Floorplan.Export.File
import Floorplan.Proofs.Building.ReadBack
import Floorplan.Proofs.Json.Indented
import Floorplan.Proofs.Message.Timestamp
import Floorplan.Store.Saved

set_option autoImplicit false

/-! # Saved and exported values are read as they were

The text under which a collection is saved is read as this collection, and so is the indented text to
which it is exported; the text of a transcript is read as this transcript (`Saved.ofText?_text`). This
holds for all texts in them. The numbers of a collection have to be words and its coordinates ones that
are read as they are written; the times of a transcript have to be ones that can be written. -/

namespace Floorplan

/-! ## Messages -/

namespace Message

theorem ofJson?_toJson {m : Message} (h : m.time.Writable) : ofJson? m.toJson = some m := by
  have hfields : Json.fields? ["id", "type", "content", "timestamp"] 4 m.toJson
      = some [some (.ofText m.id), some (.ofText m.sender.word), some (.ofText m.content),
          some (.ofText m.time.toText)] := rfl
  have hsender : Sender.ofJson? (.ofText m.sender.word) = some m.sender := by
    cases m.sender <;> rfl
  have htext : ∀ s, Json.toText? (.ofText s) = some s := fun _ => rfl
  rw [ofJson?, hfields]
  simp only [Json.required?, Option.bind_some, htext, hsender, Option.bind_eq_bind,
    Timestamp.ofText?_toText h]
  rfl

/-- The time of a message that was read can be written. -/
theorem writable_of_ofJson? {j : Json} {m : Message} (h : ofJson? j = some m) : m.time.Writable := by
  unfold ofJson? at h
  split at h
  · obtain ⟨_, -, h⟩ := Option.bind_eq_some_iff.1 h
    obtain ⟨_, -, h⟩ := Option.bind_eq_some_iff.1 h
    obtain ⟨_, -, h⟩ := Option.bind_eq_some_iff.1 h
    obtain ⟨_, -, h⟩ := Option.bind_eq_some_iff.1 h
    obtain ⟨time, htime, h⟩ := Option.bind_eq_some_iff.1 h
    cases h
    exact Timestamp.writable_of_ofText? htime
  · cases h

theorem wellFormed_toJson (m : Message) : m.toJson.WellFormed := by
  refine Json.wellFormed_record ?_
  simp [Json.wellFormed_ofText]

end Message

/-! ## Saved texts -/

namespace Saved

theorem allBlank_ofList_cons {c : Char} (s : List Char) (h : Text.isBlank c = false) :
    Text.allBlank (String.ofList (c :: s)) = false := by
  simp [Text.allBlank, h]

/-- An object is no blank text. -/
theorem allBlank_object (members : List (Option String × Json)) :
    Text.allBlank (Json.object members).compact = false ∧
      Text.allBlank (Json.object members).pretty = false := by
  constructor
  · rw [Json.compact, Json.tokens]
    exact allBlank_ofList_cons _ (by decide)
  · cases members <;> exact allBlank_ofList_cons _ (by decide)

theorem allBlank_array (items : List Json) : Text.allBlank (Json.array items).compact = false := by
  rw [Json.compact, Json.tokens]
  exact allBlank_ofList_cons _ (by decide)

theorem ofText?_of_parse? {α : Type} [Saved α] {s : String} {j : Json}
    (hblank : Text.allBlank s = false) (hparse : Json.parse? s = some j) :
    (ofText? s : Option α) = ofJson? j := by
  simp only [ofText?, hblank, Bool.false_eq_true, if_false, hparse, Option.bind_some]

theorem ofText?_collection {c : Collection} (hwords : c.InWords)
    (hcoordinates : ∀ x ∈ c.coordinates, x.ReadsBack) : ofText? (text c) = some c := by
  have hblank : Text.allBlank (text c) = false := (allBlank_object _).1
  have hparse : Json.parse? (text c) = some c.toJson := Json.parse?_compact c.wellFormed_toJson
  rw [ofText?_of_parse? hblank hparse]
  exact Collection.ofJson?_toJson hwords hcoordinates

theorem ofText?_render {c : Collection} (hwords : c.InWords)
    (hcoordinates : ∀ x ∈ c.coordinates, x.ReadsBack) :
    ofText? (ExportFormat.json.render c) = some c := by
  have hblank : Text.allBlank (ExportFormat.json.render c) = false := (allBlank_object _).2
  have hparse : Json.parse? (ExportFormat.json.render c) = some c.toJson :=
    Json.parse?_pretty c.wellFormed_toJson
  rw [ofText?_of_parse? hblank hparse]
  exact Collection.ofJson?_toJson hwords hcoordinates

theorem ofText?_messages {ms : List Message} (h : ∀ m ∈ ms, m.time.Writable) :
    ofText? (text ms) = some ms := by
  have hblank : Text.allBlank (text ms) = false := allBlank_array _
  have hparse : Json.parse? (text ms) = some (.array (ms.map Message.toJson)) :=
    Json.parse?_compact (Json.wellFormed_map Message.wellFormed_toJson ms)
  rw [ofText?_of_parse? hblank hparse]
  exact Json.toList?_map fun m hm => Message.ofJson?_toJson (h m hm)

/-- **What is saved or exported is read as it was**: a collection from its saved text and from its
    exported one, and a transcript from its saved text. The times that can be written are those of the
    years that can be, among them all of four digits. -/
theorem ofText?_text {c : Collection} {ms : List Message} (hwords : c.InWords)
    (hcoordinates : ∀ x ∈ c.coordinates, x.ReadsBack) (htimes : ∀ m ∈ ms, m.time.Writable) :
    ofText? (text c) = some c ∧ ofText? (ExportFormat.json.render c) = some c ∧
      ofText? (text ms) = some ms :=
  ⟨ofText?_collection hwords hcoordinates, ofText?_render hwords hcoordinates,
    ofText?_messages htimes⟩

/-- A tenth, which is rounded. -/
def tenth : Binary64 := ⟨false, 7205759403792794, 1018, by decide⟩

/-- A hundred with a minus sign. -/
def negHundred : Binary64 := ⟨true, 7036874417766400, 1028, by decide⟩

/-- A building with a floor that has a name and one that has none and no components. Among its texts
    are ones with a quotation mark, a backslash and a control character, and its numbers are as large as
    words can be. -/
def annex : Building where
  id := "building-\"1\""
  name := "Zoë \\ Annex\n\x01🏢"
  totalFloors := wordLimit - 1
  floors :=
    [{ id := "f", number := 0, name := some ""
       restrooms :=
        [{ id := "", name := "\t", position := ⟨tenth, negHundred⟩
           map := some "data:image/png;base64,AA==" },
         { id := "r", name := "null", position := ⟨.zero, .zero⟩, fixture := some "\x7f\u2028" }]
       corridors :=
        [{ id := "c", name := "[]", position := ⟨negHundred, tenth⟩, lifts := [⟨"l", ⟨tenth, tenth⟩⟩]
           map := some "\x00" },
         { id := "c", name := "c", position := ⟨.zero, Binary64.zero.neg⟩, lifts := [] }] },
     { id := "g", number := wordLimit - 1, restrooms := [], corridors := [] }]

/-- The first and the last nanosecond of the years 1970 to 9999. -/
def annexTalk : List Message :=
  [⟨"welcome", .assistant, "Hi!\r\n• list", ⟨0, 0⟩⟩,
   ⟨"1001", .user, "rename floor 1 to \"\\\"", ⟨253402300799, 999999999⟩⟩]

theorem annex_ofText?_text :
    ofText? (text (⟨[annex], none⟩ : Collection)) = some (⟨[annex], none⟩ : Collection) ∧
      ofText? (ExportFormat.json.render ⟨[annex], none⟩) = some (⟨[annex], none⟩ : Collection) ∧
      ofText? (text annexTalk) = some annexTalk := by
  have hwords : (⟨[annex], none⟩ : Collection).InWords := by
    intro b hb
    rw [List.mem_singleton.1 hb]
    exact ⟨by decide, by decide⟩
  have hcoordinates : ∀ x ∈ (⟨[annex], none⟩ : Collection).coordinates, x.ReadsBack := by
    decide +kernel
  refine ofText?_text hwords hcoordinates fun m hm => ?_
  rcases List.mem_pair.1 hm with rfl | rfl <;> exact ⟨by decide, by decide⟩

end Saved

end Floorplan
