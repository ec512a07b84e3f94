import Floorplan.Proofs.App.Run
import Floorplan.Proofs.App.Selection
import Floorplan.Proofs.Session.Attachment
import Floorplan.Proofs.Text.Blank

set_option autoImplicit false

/-! # What the status says of an upload

A file is attached to the selected row with `:map` or `:fixture`. The session says nothing of a file that
cannot be read, and the status is made from what the row shows afterwards. What a row carries is followed
through a write at an address (`Building.carried_edit`): the rows with the address carry what was written,
and the others what they carried before. So the status is right exactly if the file can be read or nothing
was attached to the row before: an older attachment is taken for the file that could not be read
(`App.press_enter_statusTells_iff`). -/

namespace Floorplan

/-- The two kinds of attachment. -/
inductive Attachment where
  | map
  | fixture
  deriving DecidableEq, Repr

namespace Attachment

/-- The command that attaches a file. -/
def command (k : Attachment) (path : String) : RowCommand :=
  match k with
  | map => .map path
  | fixture => .fixture path

/-- The word of the command. -/
def verb : Attachment → String
  | map => "map"
  | fixture => "fixture"

/-- The line that is typed to attach a file. -/
def typed (k : Attachment) (path : String) : String := ":" ++ k.verb ++ " " ++ path

/-- What the status calls it. -/
def label : Attachment → String
  | map => "Map"
  | fixture => "Fixture photo"

/-- Does a row show one? -/
def shows : Attachment → LayoutRow → Bool
  | map => (·.hasMap)
  | fixture => (·.hasFixture)

/-- The address for what a row stands for: maps are for restrooms and corridors, fixtures for restrooms. -/
def slot? (k : Attachment) (node : LayoutNode) : Option Slot :=
  match k, node with
  | map, .restroom floor id => some (.map .restroom floor id)
  | map, .corridor floor id => some (.map .corridor floor id)
  | fixture, .restroom floor id => some (.fixture floor id)
  | _, _ => none

/-- What a restroom carries. -/
def ofRestroom : Attachment → Restroom → Option String
  | map => (·.map)
  | fixture => (·.fixture)

/-- What a corridor carries. -/
def ofCorridor : Attachment → Corridor → Option String
  | map => (·.map)
  | fixture => fun _ => none

end Attachment

variable {k : Attachment} {slot : Slot} {content : Option String}

/-- A line with a word and an argument that has no white space around it. -/
theorem LocalCommand.parse?_word {word argument : List Char} (hword : ∀ c ∈ word, Text.isBlank c = false)
    (hne : argument ≠ []) (h : Text.Trimmed argument) :
    parse? (String.ofList (':' :: word ++ ' ' :: argument))
      = some (ofVerb (String.ofList word) (String.ofList argument)) := by
  have hline : Text.Trimmed (':' :: word ++ ' ' :: argument) := by
    refine ⟨fun c hc => ?_, fun c hc => h.last c ?_⟩
    · cases hc
      decide
    · rwa [List.getLast?_append_of_ne_nil _ (List.cons_ne_nil _ _), List.getLast?_cons_of_ne_nil hne] at hc
  have htaken : (word ++ ' ' :: argument).takeWhile (fun c => !Text.isBlank c) = word := by
    rw [List.takeWhile_append_of_pos fun c hc => by rw [hword c hc]; rfl]
    exact List.append_nil word
  have hargument : Text.trimChars (' ' :: argument) = argument := h.trimChars_eq
  rw [parse?, String.toList_ofList, hline.trimChars_eq]
  simp only [List.cons_append, htaken, List.drop_left, hargument]

/-- A path that has no white space around it is taken as it is typed. -/
theorem Attachment.parse?_typed {path : String} (hne : path ≠ "") (h : Text.Trimmed path.toList) :
    LocalCommand.parse? (k.typed path) = some (.ok (.onRow (k.command path))) := by
  have hpath : path.toList ≠ [] := fun hnil => hne (String.toList_eq_nil_iff.1 hnil)
  have hverb : ∀ c ∈ k.verb.toList, Text.isBlank c = false := by
    cases k <;> decide
  have hline : k.typed path = String.ofList (':' :: k.verb.toList ++ ' ' :: path.toList) := by
    rw [← String.toList_inj, String.toList_ofList]
    simp [typed]
  have hcommand : LocalCommand.ofVerb k.verb path = .ok (.onRow (k.command path)) := by
    cases k <;> simp [LocalCommand.ofVerb, verb, command, hne]
  rw [hline, LocalCommand.parse?_word hverb hpath h, String.ofList_toList, String.ofList_toList, hcommand]

/-! ## What the rows carry -/

/-- What the rows of a corridor and its lifts stand for, and what they carry. -/
def Corridor.carried (k : Attachment) (floor : String) (c : Corridor) :
    List (LayoutNode × Option String) :=
  (.corridor floor c.id, k.ofCorridor c) :: c.lifts.map fun l => (.lift floor c.id l.id, none)

/-- What the rows of a floor stand for, and what they carry. -/
def Floor.carried (k : Attachment) (f : Floor) : List (LayoutNode × Option String) :=
  (.floor f.id, none) :: ((f.restrooms.map fun r => (.restroom f.id r.id, k.ofRestroom r)) ++
    f.corridors.flatMap (Corridor.carried k f.id))

/-- What the rows of a building stand for, and what they carry. -/
def Building.carried (k : Attachment) (b : Building) : List (LayoutNode × Option String) :=
  b.floors.flatMap (Floor.carried k)

/-- A row shows whether it carries something. -/
theorem LayoutRow.map_onFloor (k : Attachment) (f : Floor) :
    (onFloor f).map (fun row => (row.node, k.shows row))
      = (f.carried k).map fun x => (x.1, x.2.isSome) := by
  have hlifts : ∀ c : Corridor, (c.lifts.zipIdx.map fun x =>
      ((ofLift f c x.1 x.2).node, k.shows (ofLift f c x.1 x.2)))
        = c.lifts.map fun l => (LayoutNode.lift f.id c.id l.id, false) := by
    intro c
    have hlift : ∀ x : Lift × Nat, ((ofLift f c x.1 x.2).node, k.shows (ofLift f c x.1 x.2))
        = (LayoutNode.lift f.id c.id x.1.id, false) := by
      intro x
      cases k <;> rfl
    calc (c.lifts.zipIdx.map fun x => ((ofLift f c x.1 x.2).node, k.shows (ofLift f c x.1 x.2)))
        = (c.lifts.zipIdx.map Prod.fst).map fun l => (LayoutNode.lift f.id c.id l.id, false) := by
          rw [List.map_map]
          exact List.map_congr_left fun x _ => hlift x
      _ = c.lifts.map fun l => (LayoutNode.lift f.id c.id l.id, false) := by rw [List.zipIdx_map_fst]
  cases k <;>
    simp only [onFloor, ofCorridor, Floor.carried, Corridor.carried, List.map_cons, List.map_append,
      List.map_map, List.map_flatMap, Function.comp_def, hlifts] <;> rfl

theorem Building.map_layoutRows (k : Attachment) (b : Building) :
    b.layoutRows.map (fun row => (row.node, k.shows row))
      = (b.carried k).map fun x => (x.1, x.2.isSome) := by
  simp only [layoutRows, carried, List.map_flatMap, LayoutRow.map_onFloor]

/-! ## A write at an address -/

namespace Slot

/-- The write at the address, as it goes to a restroom on a floor. -/
def onRestroom (slot : Slot) (content : Option String) (floor : String) (r : Restroom) : Restroom :=
  { r with
    map := if slot = .map .restroom floor r.id then content else r.map
    fixture := if slot = .fixture floor r.id then content else r.fixture }

/-- The write at the address, as it goes to a corridor on a floor. -/
def onCorridor (slot : Slot) (content : Option String) (floor : String) (c : Corridor) : Corridor :=
  { c with map := if slot = .map .corridor floor c.id then content else c.map }

/-- The write at the address, as it goes to a floor. -/
def onFloor (slot : Slot) (content : Option String) (f : Floor) : Floor :=
  { f with
    restrooms := f.restrooms.map (slot.onRestroom content f.id)
    corridors := f.corridors.map (slot.onCorridor content f.id) }

theorem onRestroom_eq_id {floor : String} (hmap : ∀ id, slot ≠ .map .restroom floor id)
    (hfixture : ∀ id, slot ≠ .fixture floor id) : slot.onRestroom content floor = id := by
  funext r
  rw [onRestroom, if_neg (hmap r.id), if_neg (hfixture r.id)]
  rfl

theorem onCorridor_eq_id {floor : String} (hmap : ∀ id, slot ≠ .map .corridor floor id) :
    slot.onCorridor content floor = id := by
  funext c
  rw [onCorridor, if_neg (hmap c.id)]
  rfl

/-- Component by component, it is the write that the session makes on the floors with the id. -/
theorem onFloor_eq (slot : Slot) (content : Option String) (f : Floor) :
    slot.onFloor content f = if f.id = slot.floor then slot.write content f else f := by
  by_cases h : f.id = slot.floor
  · rw [if_pos h, onFloor]
    match slot, h with
    | map .restroom _ id, rfl | fixture _ id, rfl =>
      rw [onCorridor_eq_id (by simp), List.map_id]
      refine congrArg (fun rs => { f with restrooms := rs }) (List.map_congr_left fun r _ => ?_)
      by_cases hid : r.id = id
      · simp [onRestroom, hid]
      · simp [onRestroom, hid, Ne.symm hid]
    | map .corridor _ id, rfl =>
      rw [onRestroom_eq_id (by simp) (by simp), List.map_id]
      refine congrArg (fun cs => { f with corridors := cs }) (List.map_congr_left fun c _ => ?_)
      by_cases hid : c.id = id
      · simp [onCorridor, hid]
      · simp [onCorridor, hid, Ne.symm hid]
  · have hmap : ∀ kind id, slot ≠ .map kind f.id id := by
      rintro kind id rfl
      exact h rfl
    have hfixture : ∀ id, slot ≠ .fixture f.id id := by
      rintro id rfl
      exact h rfl
    rw [if_neg h, onFloor, onRestroom_eq_id (hmap .restroom) hfixture, onCorridor_eq_id (hmap .corridor),
      List.map_id, List.map_id]

end Slot

namespace Attachment

/-- What a row carries once something is written at an address. -/
def put (k : Attachment) (slot : Slot) (content : Option String) (x : LayoutNode × Option String) :
    LayoutNode × Option String :=
  (x.1, if k.slot? x.1 = some slot then content else x.2)

theorem put_restroom (floor : String) (r : Restroom) :
    k.put slot content (.restroom floor r.id, k.ofRestroom r)
      = (.restroom floor r.id, k.ofRestroom (slot.onRestroom content floor r)) := by
  cases k <;> simp [put, slot?, ofRestroom, Slot.onRestroom, eq_comm]

theorem put_corridor (floor : String) (c : Corridor) :
    k.put slot content (.corridor floor c.id, k.ofCorridor c)
      = (.corridor floor c.id, k.ofCorridor (slot.onCorridor content floor c)) := by
  cases k <;> simp [put, slot?, ofCorridor, Slot.onCorridor, eq_comm]

theorem put_floor (floor : String) : k.put slot content (.floor floor, none) = (.floor floor, none) := by
  cases k <;> rfl

theorem put_lift (floor corridor lift : String) :
    k.put slot content (.lift floor corridor lift, none) = (.lift floor corridor lift, none) := by
  cases k <;> rfl

end Attachment

theorem Floor.carried_onFloor (f : Floor) :
    (slot.onFloor content f).carried k = (f.carried k).map (k.put slot content) := by
  have hcorridor : ∀ c : Corridor, (slot.onCorridor content f.id c).carried k f.id
      = (c.carried k f.id).map (k.put slot content) := by
    intro c
    simp only [Corridor.carried, List.map_cons, List.map_map, Function.comp_def,
      Attachment.put_corridor, Attachment.put_lift]
    rfl
  simp only [carried, Slot.onFloor, List.map_cons, List.map_append, List.map_map, List.map_flatMap,
    List.flatMap_map, Function.comp_def, Attachment.put_floor, Attachment.put_restroom, hcorridor]
  rfl

/-- The rows with the address carry what is written there, and the others what they carried before. -/
theorem Building.carried_edit (b : Building) :
    (slot.edit content b).carried k = (b.carried k).map (k.put slot content) := by
  simp only [carried, Slot.edit, mapFloor, ← Slot.onFloor_eq, List.flatMap_map, Floor.carried_onFloor,
    List.map_flatMap]

/-! ## The selected row -/

namespace App

variable {σ : Type} {a : App σ} {b : Building} {node : LayoutNode} {path : String} {clock : Clock}
  {disk : Disk}

/-- What is attached to the selected row. -/
def attached? (a : App σ) (k : Attachment) : Option String :=
  (a.session.collection.active?.bind fun b => (b.carried k)[a.selectedRow]?).bind (·.2)

/-- The address at which the selected row can carry an attachment. -/
def selectedSlot? (a : App σ) (k : Attachment) : Option Slot := a.selectedNode?.bind k.slot?

theorem attached?_of_active? (hb : a.session.collection.active? = some b) :
    a.attached? k = ((b.carried k)[a.selectedRow]?).bind (·.2) := by
  rw [attached?, hb, Option.bind_some]

/-- What the selected row stands for, together with what it shows. -/
theorem map_selectedRow (hb : a.session.collection.active? = some b) :
    (a.rows[a.selectedRow]?).map (fun row => (row.node, k.shows row))
      = ((b.carried k)[a.selectedRow]?).map fun x => (x.1, x.2.isSome) := by
  rw [rows_of_active? hb, ← List.getElem?_map, Building.map_layoutRows, List.getElem?_map]

/-- The status of an upload is made from what the selected row carries. -/
theorem uploadStatus_eq (a : App σ) (what path : String) :
    a.uploadStatus what path k.shows
      = if (a.attached? k).isSome then what ++ " attached from " ++ path
        else "Could not read " ++ path := by
  have hshows : (a.rows[a.selectedRow]?).any k.shows = (a.attached? k).isSome := by
    cases hb : a.session.collection.active? with
    | none => simp [rows, attached?, hb]
    | some b =>
      have hrow := map_selectedRow (k := k) hb
      rw [attached?_of_active? hb]
      cases hx : (b.carried k)[a.selectedRow]? <;> cases hr : a.rows[a.selectedRow]? <;>
        simp_all
  rw [uploadStatus, hshows]

variable [BlobStore σ]

/-- What is attached at the address of the selected row is what the row carries then. -/
theorem attached?_attach (h : a.selectedSlot? k = some slot) (content : Option String) :
    ({ a with session := a.session.attach slot content } : App σ).attached? k = content := by
  obtain ⟨node, hnode, hslot⟩ := Option.bind_eq_some_iff.1 h
  obtain ⟨row, hrow, rfl⟩ := Option.map_eq_some_iff.1 hnode
  cases hb : a.session.collection.active? with
  | none => simp [rows, hb] at hrow
  | some b =>
    have hedited : (a.session.attach slot content).collection.active? = some (slot.edit content b) := by
      rw [Session.attach_eq, Session.editActive, hb]
      exact Collection.active?_withBuilding hb rfl
    have hcarried := map_selectedRow (k := k) hb
    rw [hrow, Option.map_some] at hcarried
    obtain ⟨x, hx, hsame⟩ := Option.map_eq_some_iff.1 hcarried.symm
    rw [attached?_of_active? hedited, Building.carried_edit, List.getElem?_map, hx, Option.map_some,
      Option.bind_some, Attachment.put]
    have hnode : x.1 = row.node := congrArg Prod.fst hsame
    rw [hnode, if_pos hslot]

/-! ## The status -/

/-- What is left of the line that attaches a file at an address, and the session after it. -/
def uploaded (a : App σ) (slot : Slot) (path : String) (disk : Disk) : App σ :=
  { a with
    line := ""
    session :=
      match DataUri.read disk path with
      | .ok uri => a.session.attach slot (some uri)
      | .error _ => a.session }

/-- That, with the status. -/
def reported (a : App σ) (k : Attachment) (slot : Slot) (path : String) (disk : Disk) : App σ :=
  { a.uploaded slot path disk with
    status := some ((a.uploaded slot path disk).uploadStatus k.label path k.shows) }

theorem runOn_command (h : k.slot? node = some slot) (clock : Clock) :
    ({ a with line := "" } : App σ).runOn node (k.command path) clock disk
      = a.reported k slot path disk := by
  cases k <;> cases node <;> cases h <;> rfl

/-- What a line comes to that attaches a file to the selected row. -/
theorem press_enter_command (hpanel : a.panel = .input) (hidle : a.waitingSince = none)
    (hline : LocalCommand.parse? a.line = some (.ok (.onRow (k.command path))))
    (hslot : a.selectedSlot? k = some slot) (control : Bool) :
    a.press .enter control clock disk = a.reported k slot path disk := by
  obtain ⟨node, hnode, hslot⟩ := Option.bind_eq_some_iff.1 hslot
  have hsubmit : a.inputKeyPress .enter clock disk = a.submit clock disk := rfl
  have hpress : a.press .enter control clock disk
      = ({ a with line := "" } : App σ).runLocal (.onRow (k.command path)) clock disk := by
    simp [press, hpanel, hsubmit, submit, hidle, hline]
  have hsame : ({ a with line := "" } : App σ).selectedNode? = some node := hnode
  rw [hpress, ← runOn_command hslot clock]
  simp only [runLocal, hsame]

theorem status_reported (a : App σ) (k : Attachment) (slot : Slot) (path : String) (disk : Disk) :
    (a.reported k slot path disk).status
      = some (if ((a.reported k slot path disk).attached? k).isSome
          then k.label ++ " attached from " ++ path else "Could not read " ++ path) :=
  congrArg some (uploadStatus_eq _ _ _)

/-- The status tells the truth of a file that was to be attached to the selected row. -/
structure StatusTells (k : Attachment) (path : String) (disk : Disk) (a a' : App σ) : Prop where
  attached_iff : a'.status = some (k.label ++ " attached from " ++ path) ↔
    ∃ uri, DataUri.read disk path = .ok uri ∧ a'.attached? k = some uri
  unread_iff : a'.status = some ("Could not read " ++ path) ↔ ∃ e, DataUri.read disk path = .error e
  unread_unchanged : (∃ e, DataUri.read disk path = .error e) →
    a'.session.collection = a.session.collection

theorem attached_ne_unread (k : Attachment) (path : String) :
    k.label ++ " attached from " ++ path ≠ "Could not read " ++ path := by
  intro h
  have hfirst := congrArg (fun s => s.toList.head?) h
  cases k <;> simp [Attachment.label] at hfirst

/-- A file that can be read is stored, and said to be. -/
theorem reported_tells_of_ok {uri : String} (hslot : a.selectedSlot? k = some slot)
    (hread : DataUri.read disk path = .ok uri) :
    StatusTells k path disk a (a.reported k slot path disk) := by
  have hstored : (a.reported k slot path disk).attached? k = some uri := by
    rw [← attached?_attach hslot (some uri), reported, uploaded, hread]
    rfl
  have hstatus := a.status_reported k slot path disk
  rw [hstored, if_pos Option.isSome_some] at hstatus
  have hnoError : ¬ ∃ e, DataUri.read disk path = .error e := by
    rintro ⟨e, he⟩
    cases hread.symm.trans he
  refine ⟨iff_of_true hstatus ⟨uri, hread, hstored⟩, iff_of_false (fun h => ?_) hnoError,
    fun h => absurd h hnoError⟩
  exact attached_ne_unread k path (Option.some.inj (hstatus.symm.trans h))

/-- Of a file that cannot be read the status tells the truth unless the row carries something else. -/
theorem reported_tells_iff_of_error {e : DataUri.ReadError} (hread : DataUri.read disk path = .error e) :
    StatusTells k path disk a (a.reported k slot path disk) ↔ ¬ (a.attached? k).isSome := by
  have hsession : (a.reported k slot path disk).session = a.session := by
    rw [reported, uploaded, hread]
  have hsame : (a.reported k slot path disk).attached? k = a.attached? k := by
    rw [attached?, hsession]
    rfl
  have hstatus := a.status_reported k slot path disk
  rw [hsame] at hstatus
  have hnotOk : ∀ x, ¬ ∃ uri, DataUri.read disk path = .ok uri ∧ x = some uri := by
    rintro x ⟨uri, huri, -⟩
    cases hread.symm.trans huri
  constructor
  · intro htells hcarries
    rw [if_pos hcarries] at hstatus
    exact hnotOk _ (htells.attached_iff.1 hstatus)
  · intro hcarries
    rw [if_neg hcarries] at hstatus
    refine ⟨iff_of_false (fun h => ?_) (hnotOk _), iff_of_true hstatus ⟨e, hread⟩,
      fun _ => congrArg Session.collection hsession⟩
    exact attached_ne_unread k path (Option.some.inj (h.symm.trans hstatus))

/-- **When the status tells the truth**: unless the file cannot be read and something was attached to the
    selected row before. -/
theorem press_enter_statusTells_iff (hpanel : a.panel = .input) (hidle : a.waitingSince = none)
    (hline : LocalCommand.parse? a.line = some (.ok (.onRow (k.command path))))
    (hselected : (a.selectedSlot? k).isSome) (control : Bool) (clock : Clock) (disk : Disk) :
    StatusTells k path disk a (a.press .enter control clock disk) ↔
      ¬ ((∃ e, DataUri.read disk path = .error e) ∧ (a.attached? k).isSome) := by
  obtain ⟨slot, hslot⟩ := Option.isSome_iff_exists.1 hselected
  rw [press_enter_command hpanel hidle hline hslot]
  cases hread : DataUri.read disk path with
  | ok uri =>
    refine iff_of_true (reported_tells_of_ok hslot hread) ?_
    rintro ⟨⟨e, he⟩, -⟩
    cases he
  | error e =>
    rw [reported_tells_iff_of_error hread]
    exact not_congr ⟨fun h => ⟨⟨e, rfl⟩, h⟩, And.right⟩

/-- A working directory with one image. -/
def gallery : Disk := Disk.empty.put (Disk.empty.here ++ ["plan.png".toList]) (.file ⟨#[137, 80, 78, 71]⟩)

/-- A building with a restroom is made, and the image is attached to the restroom as its map. Then a line is
    typed. -/
def mapped (line : String) : List Event :=
  Event.sending "create Tower with 1 floor, 1 restroom" ++
    [.pauseOver, .pressing .backTab, .pressing .down, .pressing (.char 'm')] ++
    ("plan.png".toList.map fun c => .pressing (.char c)) ++ [.key .enter false gallery] ++
    line.toList.map fun c => .pressing (.char c)

/-- The image is attached as the fixture too, and the status tells the truth of that. -/
theorem mapped_press_enter :
    ∃ a, (ofSession (Session.restore ({} : MemoryStore) (.still 1000))).run
        ((mapped ":fixture plan.png").map (·, .still 1000)) = .ok a ∧
      StatusTells .fixture "plan.png" gallery a (a.press .enter false (.still 1000) gallery) := by
  obtain ⟨a, hrun, hready⟩ := exists_of_run_isOk
    (p := fun a => a.panel = .input ∧ a.waitingSince = none ∧ a.line = Attachment.fixture.typed "plan.png" ∧
      (a.selectedSlot? .fixture).isSome)
    (r := (ofSession (Session.restore ({} : MemoryStore) (.still 1000))).run
      ((mapped ":fixture plan.png").map (·, .still 1000))) (by decide +kernel)
  obtain ⟨hpanel, hidle, hline, hselected⟩ := of_decide_eq_true hready
  have hparse : LocalCommand.parse? a.line
      = some (.ok (.onRow (Attachment.fixture.command "plan.png"))) := by
    rw [hline]
    exact Attachment.parse?_typed (by decide) ⟨by decide, by decide⟩
  refine ⟨a, hrun, (press_enter_statusTells_iff hpanel hidle hparse hselected false _ gallery).2 ?_⟩
  rintro ⟨⟨e, he⟩, -⟩
  have hread : (DataUri.read gallery "plan.png").isOk = true := by decide +kernel
  rw [he] at hread
  cases hread

/-- A map that cannot be read is said to be attached where there is one already. -/
theorem mapped_untrue :
    ¬ ∀ (events : List (Event × Clock)) (a : App MemoryStore),
      (ofSession (Session.restore ({} : MemoryStore) (.still 1000))).run events = .ok a →
      ∀ (k : Attachment) (path : String), a.panel = .input → a.waitingSince = none →
        (a.selectedSlot? k).isSome →
        LocalCommand.parse? a.line = some (.ok (.onRow (k.command path))) →
        ∀ disk, StatusTells k path disk a (a.press .enter false (.still 1000) disk) := by
  intro htells
  obtain ⟨a, hrun, hready⟩ := exists_of_run_isOk
    (p := fun a => a.panel = .input ∧ a.waitingSince = none ∧ a.line = Attachment.map.typed "gone.png" ∧
      (a.selectedSlot? .map).isSome ∧
      (a.press .enter false (.still 1000) gallery).status = some "Map attached from gone.png")
    (r := (ofSession (Session.restore ({} : MemoryStore) (.still 1000))).run
      ((mapped ":map gone.png").map (·, .still 1000))) (by decide +kernel)
  obtain ⟨hpanel, hidle, hline, hselected, hstatus⟩ := of_decide_eq_true hready
  have hparse : LocalCommand.parse? a.line = some (.ok (.onRow (Attachment.map.command "gone.png"))) := by
    rw [hline]
    exact Attachment.parse?_typed (by decide) ⟨by decide, by decide⟩
  have htold := htells _ a hrun .map "gone.png" hpanel hidle hselected hparse gallery
  obtain ⟨uri, huri, -⟩ := htold.attached_iff.1 hstatus
  have hread : (DataUri.read gallery "gone.png").isOk = false := by decide +kernel
  rw [huri] at hread
  cases hread

end App

end Floorplan
