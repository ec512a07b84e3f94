import Mathlib.Data.List.Basic
import Floorplan.Proofs.Export.Reader

set_option autoImplicit false

/-! # What the comma-separated values hold

Whatever letters the names have, the text of a collection stands for one record of eight fields for every
restroom and every corridor, and for nothing else (`read_write`). The records are described from what is
in the collection: `Collection.entries` lists the components with the floor and the building that they are
on, and `Entry.fields` says what a record holds of one. -/

namespace Floorplan

/-! ## The components of a collection -/

/-- A restroom or a corridor, with the floor and the building that it is on. -/
structure Entry where
  building : Building
  floor : Floor
  component : Restroom ⊕ Corridor

/-- The components of a floor: its restrooms, then its corridors. -/
def Floor.components (f : Floor) : List (Restroom ⊕ Corridor) :=
  f.restrooms.map Sum.inl ++ f.corridors.map Sum.inr

/-- The components of a collection in the order of its buildings and their floors. -/
def Collection.entries (c : Collection) : List Entry :=
  c.buildings.flatMap fun b => b.floors.flatMap fun f => f.components.map fun x => ⟨b, f, x⟩

namespace Entry

/-- Which of the two it is, in a word. -/
def kind (e : Entry) : String := e.component.elim (fun _ => "Restroom") fun _ => "Corridor"

/-- Its name. -/
def name (e : Entry) : String := e.component.elim Restroom.name Corridor.name

/-- How many lifts it has, if it is one that has lifts. -/
def lifts? (e : Entry) : Option Nat := e.component.elim (fun _ => none) fun c => some c.lifts.length

/-- Does it carry a map? -/
def hasMap (e : Entry) : Bool := e.component.elim (·.map.isSome) (·.map.isSome)

/-- Does it carry a fixture, if it is one that can? -/
def hasFixture? (e : Entry) : Option Bool := e.component.elim (fun r => some r.fixture.isSome) fun _ => none

/-- What a record holds of it. A floor without a name is called by its number. -/
def fields (e : Entry) : List String :=
  [e.building.name, toString e.floor.number, e.floor.name.getD ("Floor " ++ toString e.floor.number),
   e.kind, e.name, e.lifts?.elim "" toString, if e.hasMap then "yes" else "no",
   e.hasFixture?.elim "" fun fixture => if fixture then "yes" else "no"]

end Entry

/-- There is one entry for every restroom and every corridor on a floor of a building, in their order. -/
theorem Collection.map_component_entries (c : Collection) :
    c.entries.map Entry.component = (c.buildings.flatMap (·.floors)).flatMap Floor.components := by
  simp only [entries, List.map_flatMap, List.map_map, List.flatMap_assoc]
  refine List.flatMap_congr fun b _ => List.flatMap_congr fun f _ => ?_
  exact List.map_id f.components

namespace Csv

/-- The records are those of the entries, in their order. -/
theorem records_eq (c : Collection) : records c = c.entries.map Entry.fields := by
  have hfloor : ∀ (b : Building) (f : Floor),
      floorRecords b f = (f.components.map fun x => (⟨b, f, x⟩ : Entry)).map Entry.fields := by
    intro b f
    rw [floorRecords, Floor.components, List.map_append, List.map_append, List.map_map, List.map_map,
      List.map_map, List.map_map]
    rfl
  simp only [records, Collection.entries, List.map_flatMap]
  exact List.flatMap_congr fun b _ => List.flatMap_congr fun f _ => hfloor b f

/-! ## What is written stands for the records -/

theorem field_spells (s : List Char) : SpellsField (field s) s := by
  by_cases hspecial : s.any isSpecial = true
  · rw [field, if_pos hspecial]
    exact SpellsField.quoted s
  · rw [field, if_neg hspecial]
    refine SpellsField.bare fun x hx => ?_
    rw [Bool.not_eq_true, List.any_eq_false] at hspecial
    exact Bool.not_eq_true _ ▸ hspecial x hx

theorem line_spells {fields : List String} (h : fields ≠ []) : SpellsRecord (line fields) fields := by
  induction fields with
  | nil => exact absurd rfl h
  | cons s rest ih =>
    cases rest with
    | nil =>
      have hlast := SpellsRecord.last (field_spells s.toList) (Or.inl rfl)
      rw [String.ofList_toList] at hlast
      simpa [line] using hlast
    | cons s' rest =>
      have hcons := SpellsRecord.cons (field_spells s.toList) (ih (List.cons_ne_nil s' rest))
      rw [String.ofList_toList] at hcons
      simpa [line, List.intercalate] using hcons

theorem lines_spell {records : List (List String)} (h : ∀ fields ∈ records, fields ≠ []) :
    Spells (records.flatMap line) records := by
  induction records with
  | nil => exact Spells.nil
  | cons fields records ih =>
    have hfirst := line_spells (h fields List.mem_cons_self)
    exact Spells.cons hfirst (ih fun rest hrest => h rest (List.mem_cons_of_mem fields hrest))

/-- The text of a collection stands for the header and the records. -/
theorem write_spells (c : Collection) :
    Spells ((header :: records c).flatMap line) (header :: records c) := by
  refine lines_spell fun fields hfields => ?_
  rw [records_eq, List.mem_cons, List.mem_map] at hfields
  rcases hfields with rfl | ⟨e, -, rfl⟩
  · exact List.cons_ne_nil _ _
  · exact List.cons_ne_nil _ _

/-- Collections have the same text exactly if they show the same of their components. -/
theorem write_eq_iff (c d : Collection) :
    write c = write d ↔ c.entries.map Entry.fields = d.entries.map Entry.fields := by
  rw [← records_eq, ← records_eq]
  constructor
  · intro h
    have htext : (header :: records c).flatMap line = (header :: records d).flatMap line :=
      String.ofList_injective h
    have hrecords := (write_spells c).unique (htext ▸ write_spells d)
    exact (List.cons.inj hrecords).2
  · intro h
    rw [write, write, h]

/-- **Nothing is lost**: what is written is read back as the header and one record of eight fields for
    every component, in the order of the components. -/
theorem read_write (c : Collection) :
    read (write c) = some (["Building", "Floor", "Floor Name", "Kind", "Component", "Lifts", "Has Map",
        "Has Fixture"] :: c.entries.map Entry.fields)
      ∧ ∀ fields ∈ c.entries.map Entry.fields, fields.length = 8 := by
  constructor
  · rw [write, read_of_spells (write_spells c), records_eq]
    rfl
  · intro fields hfields
    obtain ⟨e, -, rfl⟩ := List.mem_map.1 hfields
    rfl

end Csv

end Floorplan
