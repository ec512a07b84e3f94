import Floorplan.Proofs.Building.Record

set_option autoImplicit false

/-! # Buildings are read as they are written

A collection is read from its document again (`Collection.ofJson?_toJson`), with everything that it
holds: texts, images and names that may be missing, and the id of the active building. Two things can go
wrong with its numbers. A count or a floor number may be more than a word holds, and a coordinate may be
one that is not read as it is written; so these are the conditions. -/

namespace Floorplan

/-! ## Numbers that are read as they are written -/

/-- The coordinate is read as it is written. -/
def Binary64.ReadsBack (x : Binary64) : Prop := (Json.Numeral.ofBinary64 x).toBinary64? = some x

instance (x : Binary64) : Decidable x.ReadsBack :=
  inferInstanceAs (Decidable ((Json.Numeral.ofBinary64 x).toBinary64? = some x))

/-- The coordinates of a position. -/
def Position.coordinates (p : Position) : List Binary64 := [p.x, p.y]

/-- The coordinates of a corridor and its lifts. -/
def Corridor.coordinates (c : Corridor) : List Binary64 :=
  c.position.coordinates ++ c.lifts.flatMap fun l => l.position.coordinates

/-- The coordinates on a floor. -/
def Floor.coordinates (f : Floor) : List Binary64 :=
  (f.restrooms.flatMap fun r => r.position.coordinates) ++ f.corridors.flatMap Corridor.coordinates

/-- The coordinates in a collection. -/
def Collection.coordinates (c : Collection) : List Binary64 :=
  c.buildings.flatMap fun b => b.floors.flatMap Floor.coordinates

/-- The numbers of a building are words. -/
structure Building.InWords (b : Building) : Prop where
  totalFloors_lt : b.totalFloors < wordLimit
  number_lt : ∀ f ∈ b.floors, f.number < wordLimit

/-- The numbers in a collection are words. -/
def Collection.InWords (c : Collection) : Prop := ∀ b ∈ c.buildings, b.InWords

/-! ## Fields -/

namespace Json

theorem toNat?_ofNat {n : Nat} (h : n < wordLimit) : toNat? (ofNat n) = some n :=
  Numeral.toNat?_ofNat h

theorem toBinary64?_ofBinary64 {x : Binary64} (h : x.ReadsBack) :
    toBinary64? (ofBinary64 x) = some x := h

theorem optional?_map_ofText (s : Option String) : optional? (s.map ofText) = some s := by
  cases s <;> rfl

/-- A list is read back if its items are. -/
theorem toList?_map {α : Type} {write : α → Json} {read : Json → Option α} {items : List α}
    (h : ∀ a ∈ items, read (write a) = some a) :
    toList? read (.array (items.map write)) = some items := by
  show (items.map write).mapM read = some items
  induction items with
  | nil => rfl
  | cons a items ih =>
    obtain ⟨ha, hitems⟩ := List.forall_mem_cons.1 h
    rw [List.map_cons, List.mapM_cons, ha, ih hitems]
    rfl

end Json

/-! ## Records -/

theorem Position.ofJson?_toJson {p : Position} (h : ∀ x ∈ p.coordinates, x.ReadsBack) :
    ofJson? p.toJson = some p := by
  have hfields : Json.fields? ["x", "y"] 2 p.toJson
      = some [some (.ofBinary64 p.x), some (.ofBinary64 p.y)] := rfl
  have hx : p.x.ReadsBack := h p.x (by simp [coordinates])
  have hy : p.y.ReadsBack := h p.y (by simp [coordinates])
  rw [ofJson?, hfields]
  simp only [Json.required?, Option.bind_some, Json.toBinary64?_ofBinary64 hx,
    Json.toBinary64?_ofBinary64 hy]
  rfl

theorem Lift.ofJson?_toJson {l : Lift} (h : ∀ x ∈ l.position.coordinates, x.ReadsBack) :
    ofJson? l.toJson = some l := by
  have hfields : Json.fields? ["id", "position"] 2 l.toJson
      = some [some (.ofText l.id), some l.position.toJson] := rfl
  rw [ofJson?, hfields]
  simp only [Json.required?, Option.bind_some, Position.ofJson?_toJson h]
  rfl

theorem Restroom.ofJson?_toJson {r : Restroom} (h : ∀ x ∈ r.position.coordinates, x.ReadsBack) :
    ofJson? r.toJson = some r := by
  have hfields : Json.fields? ["id", "name", "position", "map2D", "fixtureDetails"] 3 r.toJson
      = some [some (.ofText r.id), some (.ofText r.name), some r.position.toJson,
          r.map.map .ofText, r.fixture.map .ofText] := by
    obtain ⟨id, name, position, map, fixture⟩ := r
    cases map <;> cases fixture <;> rfl
  rw [ofJson?, hfields]
  simp only [Json.required?, Option.bind_some, Position.ofJson?_toJson h,
    Json.optional?_map_ofText]
  rfl

theorem Corridor.ofJson?_toJson {c : Corridor} (h : ∀ x ∈ c.coordinates, x.ReadsBack) :
    ofJson? c.toJson = some c := by
  have hfields : Json.fields? ["id", "name", "position", "lifts", "map2D"] 4 c.toJson
      = some [some (.ofText c.id), some (.ofText c.name), some c.position.toJson,
          some (.array (c.lifts.map Lift.toJson)), c.map.map .ofText] := by
    obtain ⟨id, name, position, lifts, map⟩ := c
    cases map <;> rfl
  obtain ⟨hposition, hlifts⟩ := List.forall_mem_append.1 h
  have hlist : Json.toList? Lift.ofJson? (.array (c.lifts.map Lift.toJson)) = some c.lifts :=
    Json.toList?_map fun l hl =>
      Lift.ofJson?_toJson fun x hx => hlifts x (List.mem_flatMap_of_mem hl hx)
  rw [ofJson?, hfields]
  simp only [Json.required?, Option.bind_some, Position.ofJson?_toJson hposition, hlist,
    Json.optional?_map_ofText]
  rfl

theorem Floor.ofJson?_toJson {f : Floor} (hnumber : f.number < wordLimit)
    (h : ∀ x ∈ f.coordinates, x.ReadsBack) : ofJson? f.toJson = some f := by
  have hfields : Json.fields? ["id", "number", "name", "restrooms", "corridors"] 5 f.toJson
      = some [some (.ofText f.id), some (.ofNat f.number), f.name.map .ofText,
          some (.array (f.restrooms.map Restroom.toJson)),
          some (.array (f.corridors.map Corridor.toJson))] := by
    obtain ⟨id, number, name, restrooms, corridors⟩ := f
    cases name <;> rfl
  obtain ⟨hrestrooms, hcorridors⟩ := List.forall_mem_append.1 h
  have hfirst : Json.toList? Restroom.ofJson? (.array (f.restrooms.map Restroom.toJson))
      = some f.restrooms := Json.toList?_map fun r hr =>
    Restroom.ofJson?_toJson fun x hx => hrestrooms x (List.mem_flatMap_of_mem hr hx)
  have hsecond : Json.toList? Corridor.ofJson? (.array (f.corridors.map Corridor.toJson))
      = some f.corridors := Json.toList?_map fun c hc =>
    Corridor.ofJson?_toJson fun x hx => hcorridors x (List.mem_flatMap_of_mem hc hx)
  rw [ofJson?, hfields]
  simp only [Json.required?, Option.bind_some, Json.toNat?_ofNat hnumber, hfirst, hsecond,
    Json.optional?_map_ofText]
  rfl

theorem Building.ofJson?_toJson {b : Building} (hwords : b.InWords)
    (h : ∀ f ∈ b.floors, ∀ x ∈ f.coordinates, x.ReadsBack) : ofJson? b.toJson = some b := by
  have hfields : Json.fields? ["id", "name", "totalFloors", "floors"] 4 b.toJson
      = some [some (.ofText b.id), some (.ofText b.name), some (.ofNat b.totalFloors),
        some (.array (b.floors.map Floor.toJson))] := rfl
  have hfloors : Json.toList? Floor.ofJson? (.array (b.floors.map Floor.toJson)) = some b.floors :=
    Json.toList?_map fun f hf => Floor.ofJson?_toJson (hwords.number_lt f hf) (h f hf)
  rw [ofJson?, hfields]
  simp only [Json.required?, Option.bind_some, Json.toNat?_ofNat hwords.totalFloors_lt, hfloors]
  rfl

/-- **A collection is read back from its document.** -/
theorem Collection.ofJson?_toJson {c : Collection} (hwords : c.InWords)
    (h : ∀ x ∈ c.coordinates, x.ReadsBack) : ofJson? c.toJson = some c := by
  have hfields : Json.fields? ["buildings", "activeBuilding"] 2 c.toJson
      = some [some (.array (c.buildings.map Building.toJson)),
          some (c.activeId.elim .null .ofText)] := by
    cases h : c.activeId <;> simp only [toJson, h] <;> rfl
  have hbuildings : Json.toList? Building.ofJson? (.array (c.buildings.map Building.toJson))
      = some c.buildings := Json.toList?_map fun b hb =>
    Building.ofJson?_toJson (hwords b hb) fun f hf x hx =>
      h x (List.mem_flatMap_of_mem hb (List.mem_flatMap_of_mem hf hx))
  have hactive : Json.optional? (some (c.activeId.elim .null .ofText)) = some c.activeId := by
    cases c.activeId <;> rfl
  rw [ofJson?, hfields]
  simp only [Json.required?, Option.bind_some, hbuildings, hactive]
  rfl

end Floorplan
