import Floorplan.Building.Record
import Floorplan.Proofs.Building.WellFormed
import Floorplan.Proofs.Json.Document

set_option autoImplicit false

/-! # Collections as documents

The numerals in the document of a collection are those of natural numbers and coordinates, so its text
is parsed to the document. The coordinates may be read as others than were written, or not at all; what
is read has in any case the buildings that were written, by their ids. -/

namespace Floorplan

/-! ## The documents are well-formed -/

namespace Json

theorem wellFormed_record {fields : List (String × Json)} (h : ∀ m ∈ fields, m.2.WellFormed) :
    (record fields).WellFormed := by
  refine wellFormed_object fun m hm => ?_
  obtain ⟨⟨name, value⟩, hfield, rfl⟩ := List.mem_map.1 hm
  exact h (name, value) hfield

theorem wellFormed_ofText (s : String) : (ofText s).WellFormed := wellFormed_string (some s)

theorem wellFormed_ofNat (n : Nat) : (ofNat n).WellFormed :=
  wellFormed_number (Numeral.wellFormed_ofNat n)

theorem wellFormed_ofBinary64 (x : Binary64) : (ofBinary64 x).WellFormed :=
  wellFormed_number (Numeral.wellFormed_ofBinary64 x)

theorem wellFormed_fieldIfSome (name : String) (value : Option String) :
    ∀ m ∈ fieldIfSome name value, m.2.WellFormed := by
  cases value with
  | none => simp [fieldIfSome]
  | some s => exact List.forall_mem_singleton.2 (wellFormed_ofText s)

theorem wellFormed_map {α : Type} {write : α → Json} (h : ∀ a, (write a).WellFormed)
    (items : List α) : (array (items.map write)).WellFormed := by
  refine wellFormed_array fun j hj => ?_
  obtain ⟨a, -, rfl⟩ := List.mem_map.1 hj
  exact h a

end Json

theorem Position.wellFormed_toJson (p : Position) : p.toJson.WellFormed := by
  refine Json.wellFormed_record ?_
  simp [Json.wellFormed_ofBinary64]

theorem Lift.wellFormed_toJson (l : Lift) : l.toJson.WellFormed := by
  refine Json.wellFormed_record ?_
  simp [Json.wellFormed_ofText, Position.wellFormed_toJson]

theorem Restroom.wellFormed_toJson (r : Restroom) : r.toJson.WellFormed := by
  refine Json.wellFormed_record (List.forall_mem_append.2 ⟨List.forall_mem_append.2 ⟨?_, ?_⟩, ?_⟩)
  · simp [Json.wellFormed_ofText, Position.wellFormed_toJson]
  · exact Json.wellFormed_fieldIfSome _ _
  · exact Json.wellFormed_fieldIfSome _ _

theorem Corridor.wellFormed_toJson (c : Corridor) : c.toJson.WellFormed := by
  refine Json.wellFormed_record (List.forall_mem_append.2 ⟨?_, Json.wellFormed_fieldIfSome _ _⟩)
  simp [Json.wellFormed_ofText, Position.wellFormed_toJson,
    Json.wellFormed_map Lift.wellFormed_toJson]

theorem Floor.wellFormed_toJson (f : Floor) : f.toJson.WellFormed := by
  refine Json.wellFormed_record (List.forall_mem_append.2 ⟨List.forall_mem_append.2 ⟨?_, ?_⟩, ?_⟩)
  · simp [Json.wellFormed_ofText, Json.wellFormed_ofNat]
  · exact Json.wellFormed_fieldIfSome _ _
  · simp [Json.wellFormed_map Restroom.wellFormed_toJson,
      Json.wellFormed_map Corridor.wellFormed_toJson]

theorem Building.wellFormed_toJson (b : Building) : b.toJson.WellFormed := by
  refine Json.wellFormed_record ?_
  simp [Json.wellFormed_ofText, Json.wellFormed_ofNat, Json.wellFormed_map Floor.wellFormed_toJson]

theorem Collection.wellFormed_toJson (c : Collection) : c.toJson.WellFormed := by
  refine Json.wellFormed_record (List.forall_mem_cons.2 ⟨?_, List.forall_mem_singleton.2 ?_⟩)
  · exact Json.wellFormed_map Building.wellFormed_toJson c.buildings
  · cases c.activeId with
    | none => exact Json.wellFormed_null
    | some id => exact Json.wellFormed_ofText id

/-! ## The buildings that are read -/

theorem forall₂_of_mapM {α β : Type} {write : α → Json} {read : Json → Option β} {items : List α}
    {results : List β} (h : (items.map write).mapM read = some results) :
    List.Forall₂ (fun a b => read (write a) = some b) items results := by
  induction items generalizing results with
  | nil =>
    cases h
    exact .nil
  | cons a items ih =>
    rw [List.map_cons, List.mapM_cons] at h
    obtain ⟨b, hb, h⟩ := Option.bind_eq_some_iff.1 h
    obtain ⟨bs, hbs, h⟩ := Option.bind_eq_some_iff.1 h
    cases h
    exact .cons hb (ih hbs)

theorem Building.id_of_ofJson? {b b' : Building} (h : Building.ofJson? b.toJson = some b') :
    b'.id = b.id := by
  have hfields : Json.fields? ["id", "name", "totalFloors", "floors"] 4 b.toJson
      = some [some (.ofText b.id), some (.ofText b.name), some (.ofNat b.totalFloors),
        some (.array (b.floors.map Floor.toJson))] := rfl
  rw [ofJson?, hfields] at h
  obtain ⟨id, hid, h⟩ := Option.bind_eq_some_iff.1 h
  obtain ⟨name, -, h⟩ := Option.bind_eq_some_iff.1 h
  obtain ⟨totalFloors, -, h⟩ := Option.bind_eq_some_iff.1 h
  obtain ⟨floors, -, h⟩ := Option.bind_eq_some_iff.1 h
  cases h
  exact (Option.some.inj hid).symm

/-- What is read from the document of a collection has the same buildings, by their ids. -/
theorem Collection.ids_of_ofJson? {c c' : Collection} (h : Collection.ofJson? c.toJson = some c') :
    c'.buildings.map (·.id) = c.buildings.map (·.id) := by
  obtain ⟨active, hfields⟩ : ∃ active, Json.fields? ["buildings", "activeBuilding"] 2 c.toJson
      = some [some (.array (c.buildings.map Building.toJson)), active] := ⟨_, rfl⟩
  rw [ofJson?, hfields] at h
  obtain ⟨buildings, hbuildings, h⟩ := Option.bind_eq_some_iff.1 h
  obtain ⟨activeId, -, h⟩ := Option.bind_eq_some_iff.1 h
  cases h
  exact map_eq_of_forall₂ (forall₂_of_mapM hbuildings) fun _ _ => Building.id_of_ofJson?

end Floorplan
