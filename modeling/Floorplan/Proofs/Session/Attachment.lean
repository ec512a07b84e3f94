import Floorplan.Proofs.Building.Address
import Floorplan.Proofs.Building.Lookup
import Floorplan.Proofs.Session.Alike

set_option autoImplicit false

/-! # Attachments

An attachment is a map of a component or the fixture of a restroom. Its address (`Slot`) says the floor
and the component by their ids, so it may belong to nothing in the active building, and nothing says that
it belongs to one thing only. Where ids are distinct it does, and then attaching and taking away is a
write at one place (`Collection.writeAt`). Writes at one address replace each other and writes at two
addresses can be made in either order, whatever the ids are, because no write changes an id. Main result:
`Session.attachments_independent`. -/

namespace Floorplan

/-- What can carry an attachment in the active building. -/
inductive Slot where
  | map (kind : ComponentKind) (floor component : String)
  | fixture (floor restroom : String)
  deriving DecidableEq, Repr

namespace Slot

/-- The id of the floor. -/
def floor : Slot → String
  | map _ floor _ => floor
  | fixture floor _ => floor

/-- The kind of the component. -/
def kind : Slot → ComponentKind
  | map kind _ _ => kind
  | fixture _ _ => .restroom

/-- The id of the component. -/
def component : Slot → String
  | map _ _ component => component
  | fixture _ restroom => restroom

/-- The write that the session makes on every floor with the id. -/
def write (slot : Slot) (content : Option String) (f : Floor) : Floor :=
  match slot with
  | map .restroom _ id => f.mapRestroom id fun r => { r with map := content }
  | map .corridor _ id => f.mapCorridor id fun c => { c with map := content }
  | fixture _ id => f.mapRestroom id fun r => { r with fixture := content }

/-- The write at one place among the components of the kind. -/
def writeNth (slot : Slot) (content : Option String) (i : Nat) (f : Floor) : Floor :=
  match slot with
  | map .restroom _ _ =>
    { f with restrooms := f.restrooms.modify i fun r => { r with map := content } }
  | map .corridor _ _ =>
    { f with corridors := f.corridors.modify i fun c => { c with map := content } }
  | fixture _ _ => { f with restrooms := f.restrooms.modify i fun r => { r with fixture := content } }

variable {slot slot' : Slot} {f : Floor} {i : Nat} {u v content : Option String}

theorem write_id (slot : Slot) (content : Option String) (f : Floor) :
    (slot.write content f).id = f.id := by
  unfold write
  split <;> rfl

theorem write_eq_self (h : slot.component ∉ slot.kind.idsOn f) : slot.write content f = f := by
  match slot with
  | map .restroom _ _ | fixture _ _ =>
    exact Floor.mapRestroom_eq_self fun r hr hid => absurd (hid ▸ List.mem_map_of_mem hr) h
  | map .corridor _ _ =>
    exact Floor.mapCorridor_eq_self fun c hc hid => absurd (hid ▸ List.mem_map_of_mem hc) h

/-- Where the ids of the components are distinct, the write is made in one place. -/
theorem write_eq_writeNth (hnodup : (slot.kind.idsOn f).Nodup)
    (h : (slot.kind.idsOn f)[i]? = some slot.component) (content : Option String) :
    slot.write content f = slot.writeNth content i f := by
  match slot with
  | map .restroom _ _ | fixture _ _ => exact Floor.mapRestroom_eq_modify hnodup h _
  | map .corridor _ _ => exact Floor.mapCorridor_eq_modify hnodup h _

theorem write_write (slot : Slot) (u v : Option String) (f : Floor) :
    slot.write v (slot.write u f) = slot.write v f := by
  match slot with
  | map .restroom _ _ | fixture _ _ => exact Floor.mapRestroom_mapRestroom fun _ => rfl
  | map .corridor _ _ => exact Floor.mapCorridor_mapCorridor fun _ => rfl

/-- Two writes on one floor. Where both go to one restroom, they are to its map and to its fixture. -/
theorem write_comm (hfloor : slot.floor = slot'.floor) (h : slot ≠ slot') :
    slot'.write v (slot.write u f) = slot.write u (slot'.write v f) := by
  match slot, slot' with
  | map .restroom _ _, map .restroom _ _ | fixture _ _, fixture _ _ =>
    refine Floor.mapRestroom_comm (fun _ => rfl) (fun _ => rfl) ?_
    rintro rfl
    cases hfloor
    exact absurd rfl h
  | map .corridor _ _, map .corridor _ _ =>
    refine Floor.mapCorridor_comm (fun _ => rfl) (fun _ => rfl) ?_
    rintro rfl
    cases hfloor
    exact absurd rfl h
  | map .restroom _ _, fixture _ _ | fixture _ _, map .restroom _ _ =>
    exact Floor.mapRestroom_comm (fun _ => rfl) (fun _ => rfl) fun _ _ => rfl
  | map .corridor _ _, map .restroom _ _ | map .corridor _ _, fixture _ _
  | map .restroom _ _, map .corridor _ _ | fixture _ _, map .corridor _ _ => rfl

/-- The write that the session makes on the active building. -/
def edit (slot : Slot) (content : Option String) (b : Building) : Building :=
  b.mapFloor slot.floor (slot.write content)

theorem edit_edit (slot : Slot) (u v : Option String) (b : Building) :
    slot.edit v (slot.edit u b) = slot.edit v b := by
  have hlast : (fun f => slot.write v (slot.write u f)) = slot.write v :=
    funext (slot.write_write u v)
  rw [edit, edit, Building.mapFloor_mapFloor (slot.write_id u), hlast, edit]

theorem edit_comm (h : slot ≠ slot') (u v : Option String) (b : Building) :
    slot'.edit v (slot.edit u b) = slot.edit u (slot'.edit v b) :=
  Building.mapFloor_comm (slot'.write_id v) (slot.write_id u) fun hfloor _ =>
    write_comm hfloor.symm h

end Slot

/-- A place among the buildings, the floors and the components of a kind. -/
structure Spot where
  building : Nat
  floor : Nat
  component : Nat

/-- The address belongs to what is at the place, in the active building. -/
def Slot.At (slot : Slot) (c : Collection) (p : Spot) : Prop :=
  ∃ b f, c.buildings[p.building]? = some b ∧ c.activeId = some b.id ∧
    b.floors[p.floor]? = some f ∧ f.id = slot.floor ∧
    (slot.kind.idsOn f)[p.component]? = some slot.component

/-! ## Collections -/

namespace Collection

variable {c : Collection} {b b' : Building} {slot slot' : Slot} {content u v : Option String} {p : Spot}

/-- The ids by which attachments are addressed are distinct. -/
structure Addressable (c : Collection) : Prop where
  buildings : (c.buildings.map (·.id)).Nodup
  floors : ∀ b, c.active? = some b → (b.floors.map (·.id)).Nodup
  components : ∀ b, c.active? = some b → ∀ f ∈ b.floors, ∀ kind : ComponentKind, (kind.idsOn f).Nodup

/-- The collection with one attachment written, and nothing else. -/
def writeAt (c : Collection) (slot : Slot) (content : Option String) (p : Spot) : Collection :=
  { c with buildings := c.buildings.modify p.building fun b =>
      { b with floors := b.floors.modify p.floor (slot.writeNth content p.component) } }

/-- What the session makes of the collection when something is attached or taken away. -/
def attach (c : Collection) (slot : Slot) (content : Option String) : Collection :=
  match c.active? with
  | none => c
  | some b => c.withBuilding (slot.edit content b)

/-- Several attachments, one after the other. -/
def attachAll (c : Collection) : List (Slot × Option String) → Collection
  | [] => c
  | (slot, content) :: writes => (c.attach slot content).attachAll writes

theorem attach_of_active? (hb : c.active? = some b) :
    c.attach slot content = c.withBuilding (slot.edit content b) := by
  rw [attach, hb]

theorem attach_of_none (hb : c.active? = none) : c.attach slot content = c := by
  rw [attach, hb]

/-- Two attachments are two edits of the active building. -/
theorem attach_attach_of_active? (hb : c.active? = some b) :
    (c.attach slot u).attach slot' v = c.withBuilding (slot'.edit v (slot.edit u b)) := by
  have hedited : (c.withBuilding (slot.edit u b)).active? = some (slot.edit u b) :=
    active?_withBuilding hb rfl
  rw [attach_of_active? hb, attach_of_active? hedited]
  exact c.withBuilding_withBuilding rfl

theorem attach_attach (c : Collection) (slot : Slot) (u v : Option String) :
    (c.attach slot u).attach slot v = c.attach slot v := by
  cases hb : c.active? with
  | none => rw [attach_of_none hb]
  | some b => rw [attach_attach_of_active? hb, slot.edit_edit, attach_of_active? hb]

theorem attach_comm (h : slot ≠ slot') (u v : Option String) (c : Collection) :
    (c.attach slot u).attach slot' v = (c.attach slot' v).attach slot u := by
  cases hb : c.active? with
  | none => rw [attach_of_none hb, attach_of_none hb, attach_of_none hb]
  | some b =>
    rw [attach_attach_of_active? hb, attach_attach_of_active? hb, Slot.edit_comm h]

/-- What is attached is gone once something else is attached at the address, whatever was attached
    in between. -/
theorem attachAll_forgets (c : Collection) (slot : Slot) (u v : Option String)
    (between : List (Slot × Option String)) :
    c.attachAll ((slot, u) :: between ++ [(slot, v)]) = c.attachAll (between ++ [(slot, v)]) := by
  induction between generalizing c with
  | nil => exact c.attach_attach slot u v
  | cons w ws ih =>
    obtain ⟨slot', content⟩ := w
    have hnext := ih (c.attach slot' content)
    simp only [List.cons_append, attachAll] at hnext ⊢
    by_cases h : slot = slot'
    · rw [h, attach_attach]
    · rw [attach_comm h, hnext]

/-- Where building ids are distinct, what is made of a building takes one place. -/
theorem withBuilding_eq_modify {i : Nat} (hids : (c.buildings.map (·.id)).Nodup)
    (hi : c.buildings[i]? = some b) (edit : Building → Building) (hid : (edit b).id = b.id) :
    c.withBuilding (edit b) = { c with buildings := c.buildings.modify i edit } := by
  have hplace : (c.buildings.map (·.id))[i]? = some (edit b).id := by
    rw [List.getElem?_map, hi, Option.map_some, hid]
  have hconst : c.buildings.modify i (fun _ => edit b) = c.buildings.modify i edit :=
    modify_congr_of_getElem? hi rfl
  rw [withBuilding, map_keyed_eq_modify hids hplace fun _ => edit b, hconst]

/-- **An address that belongs to something**: the attachment is written there. -/
theorem attach_of_at (hc : c.Addressable) (h : slot.At c p) (content : Option String) :
    c.attach slot content = c.writeAt slot content p := by
  obtain ⟨b, f, hbuilding, hactive, hfloor, hid, hcomponent⟩ := h
  have hb : c.active? = some b :=
    active?_of_mem hc.buildings hactive (List.mem_of_getElem? hbuilding)
  have hcomponents := hc.components b hb f (List.mem_of_getElem? hfloor) slot.kind
  have hplace : (b.floors.map (·.id))[p.floor]? = some slot.floor := by
    rw [List.getElem?_map, hfloor, Option.map_some, hid]
  have hwrite : b.floors.modify p.floor (slot.write content)
      = b.floors.modify p.floor (slot.writeNth content p.component) :=
    modify_congr_of_getElem? hfloor (Slot.write_eq_writeNth hcomponents hcomponent content)
  have hedit : slot.edit content b =
      { b with floors := b.floors.modify p.floor (slot.writeNth content p.component) } := by
    rw [Slot.edit, Building.mapFloor_eq_modify (hc.floors b hb) hplace, hwrite]
  rw [attach_of_active? hb, hedit]
  exact withBuilding_eq_modify hc.buildings hbuilding
    (fun b => { b with floors := b.floors.modify p.floor (slot.writeNth content p.component) }) rfl

/-- **An address that belongs to nothing**: nothing is attached. -/
theorem attach_of_not_at (hids : (c.buildings.map (·.id)).Nodup) (h : ∀ p, ¬ slot.At c p)
    (content : Option String) : c.attach slot content = c := by
  cases hb : c.active? with
  | none => exact attach_of_none hb
  | some b =>
    obtain ⟨i, hi⟩ := List.mem_iff_getElem?.1 (mem_of_active? hb)
    have hedit : slot.edit content b = b := by
      refine Building.mapFloor_eq_self fun f hf hid => Slot.write_eq_self fun hcomponent => ?_
      obtain ⟨j, hj⟩ := List.mem_iff_getElem?.1 hf
      obtain ⟨k, hk⟩ := List.mem_iff_getElem?.1 hcomponent
      exact h ⟨i, j, k⟩ ⟨b, f, hi, activeId_of_active? hb, hj, hid, hk⟩
    rw [attach_of_active? hb, hedit, withBuilding_self hids hb]

end Collection

/-! ## Sessions -/

namespace Session

variable {σ : Type} [BlobStore σ]

/-- Attaches something at an address, or takes away what is attached there. -/
def attach (s : Session σ) (slot : Slot) (content : Option String) : Session σ :=
  match slot with
  | .map kind floor component => s.setMap kind floor component content
  | .fixture floor restroom => s.setFixture floor restroom content

/-- Attaches several things, one after the other. -/
def attachAll (s : Session σ) : List (Slot × Option String) → Session σ
  | [] => s
  | (slot, content) :: writes => (s.attach slot content).attachAll writes

/-- The sessions hold the same. Their stores may differ. -/
abbrev HoldsSame (s t : Session σ) : Prop := Alike (fun _ _ => True) s t

theorem attach_eq (s : Session σ) (slot : Slot) (content : Option String) :
    s.attach slot content = s.editActive (slot.edit content) := by
  match slot with
  | .map .restroom _ _ | .map .corridor _ _ | .fixture _ _ => rfl

theorem holdsSame_attach (s : Session σ) (slot : Slot) (content : Option String) :
    HoldsSame { s with collection := s.collection.attach slot content } (s.attach slot content) := by
  rw [attach_eq, editActive]
  cases hb : s.collection.active? with
  | none => exact ⟨trivial, (Collection.attach_of_none hb).symm, rfl, rfl, rfl⟩
  | some b => exact ⟨trivial, (Collection.attach_of_active? hb).symm, rfl, rfl, rfl⟩

theorem holdsSame_attachAll (s : Session σ) (writes : List (Slot × Option String)) :
    HoldsSame { s with collection := s.collection.attachAll writes } (s.attachAll writes) := by
  induction writes generalizing s with
  | nil => exact ⟨trivial, rfl, rfl, rfl, rfl⟩
  | cons w writes ih =>
    obtain ⟨slot, content⟩ := w
    obtain ⟨-, hcollection, hmessages, hpending, hstamps⟩ := s.holdsSame_attach slot content
    obtain ⟨-, hcollection', hmessages', hpending', hstamps'⟩ := ih (s.attach slot content)
    refine ⟨trivial, ?_, hmessages'.trans hmessages, hpending'.trans hpending, hstamps'.trans hstamps⟩
    rw [attachAll, hcollection', hcollection]
    rfl

/-- Attachments that come to the same in the collection come to the same in the session. -/
theorem holdsSame_of_attachAll_eq (s : Session σ) {ws ws' : List (Slot × Option String)}
    (h : s.collection.attachAll ws = s.collection.attachAll ws') :
    HoldsSame (s.attachAll ws) (s.attachAll ws') := by
  obtain ⟨-, hcollection, hmessages, hpending, hstamps⟩ := s.holdsSame_attachAll ws
  obtain ⟨-, hcollection', hmessages', hpending', hstamps'⟩ := s.holdsSame_attachAll ws'
  exact ⟨trivial, hcollection'.trans (h.symm.trans hcollection.symm),
    hmessages'.trans hmessages.symm, hpending'.trans hpending.symm, hstamps'.trans hstamps.symm⟩

/-- Attachments do not get into each other's way. -/
structure Independent (s : Session σ) : Prop where
  /-- Nothing but the attachment at the address changes. -/
  written : ∀ slot content p, slot.At s.collection p →
    HoldsSame { s with collection := s.collection.writeAt slot content p } (s.attach slot content)
  lost : ∀ slot content, (∀ p, ¬ slot.At s.collection p) → HoldsSame s (s.attach slot content)
  /-- The last write at an address counts, whatever is written after the first. -/
  replaced : ∀ slot u v between,
    HoldsSame (s.attachAll ((slot, u) :: between ++ [(slot, v)])) (s.attachAll (between ++ [(slot, v)]))
  swapped : ∀ slot slot' u v, slot ≠ slot' →
    HoldsSame (s.attachAll [(slot, u), (slot', v)]) (s.attachAll [(slot', v), (slot, u)])

/-- **Attachments behave like cells that are independent of each other.** -/
theorem attachments_independent {s : Session σ} (h : s.collection.Addressable) : s.Independent where
  written slot content p hp := by
    rw [← Collection.attach_of_at h hp]
    exact s.holdsSame_attach slot content
  lost slot content hp := by
    have hsame := s.holdsSame_attach slot content
    rwa [Collection.attach_of_not_at h.buildings hp] at hsame
  replaced slot u v between :=
    s.holdsSame_of_attachAll_eq (s.collection.attachAll_forgets slot u v between)
  swapped slot slot' u v hne :=
    s.holdsSame_of_attachAll_eq (Collection.attach_comm hne u v s.collection)

/-- A restroom and a corridor on one floor have the same id, and so have the floors of two
    buildings. -/
def shared : Session MemoryStore :=
  { store := {}
    messages := []
    collection :=
      { activeId := some "mill"
        buildings := ["barn", "mill"].map fun id =>
          { id, name := "Mill", totalFloors := 2
            floors :=
              [{ id := "loft", number := 2, restrooms := [], corridors := [] },
               { id := "yard", number := 1, restrooms := [.generate "pod" 0, .generate "bath" 1]
                 corridors := [.generate "hall" 0 1, .generate "pod" 1 1] }] } } }

theorem shared_independent :
    shared.collection.Addressable ∧ shared.Independent ∧
      (Slot.map .corridor "yard" "pod").At shared.collection ⟨1, 1, 1⟩ ∧
      (Slot.map .restroom "yard" "pod").At shared.collection ⟨1, 1, 0⟩ := by
  have haddressable : shared.collection.Addressable := by
    refine ⟨by decide, ?_, ?_⟩
    · rintro b ⟨⟩
      decide
    · rintro b ⟨⟩ f hf kind
      revert f
      cases kind <;> decide
  exact ⟨haddressable, attachments_independent haddressable, ⟨_, _, rfl, rfl, rfl, rfl, rfl⟩,
    ⟨_, _, rfl, rfl, rfl, rfl, rfl⟩⟩

end Session

end Floorplan
