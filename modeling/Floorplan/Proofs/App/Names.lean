import Floorplan.Proofs.App.Run
import Floorplan.Proofs.Intent.ProperNames
import Floorplan.Proofs.Session.Arises

set_option autoImplicit false

/-! # No blank names

Whatever is typed, pressed or sent, names stay proper, with one exception: the local command that gives
a name does not need one, and gives a component the empty name if there is none. A floor loses its name
then, as it should. So all names are proper exactly as long as that is not done to a component
(`App.properlyNamed_iff`), and they are not in general (`App.nameless_improper`). -/

namespace Floorplan

variable {σ : Type} [BlobStore σ]

/-! ## Sessions -/

namespace Session

/-- Every name after is proper or was there before. -/
def NamesArise (s s' : Session σ) : Prop :=
  Arises ProperName Eq s.collection.allNames s'.collection.allNames

variable {s s' : Session σ} {clock : Clock}

omit [BlobStore σ] in
theorem NamesArise.of_eq (h : s'.collection.allNames = s.collection.allNames) : NamesArise s s' :=
  Arises.of_eq (fun _ => rfl) h

omit [BlobStore σ] in
theorem NamesArise.properlyNamed (h : NamesArise s s') (hs : s.collection.ProperlyNamed) :
    s'.collection.ProperlyNamed :=
  h.forall_properName hs

omit [BlobStore σ] in
theorem Talks.namesArise {reply : Option Reply} (h : Talks clock s reply s') : NamesArise s s' :=
  h.arises (fun _ => rfl) dispatch_names_arise

theorem namesArise_setMap (s : Session σ) (kind : ComponentKind) (floor component : String)
    (map : Option String) : NamesArise s (s.setMap kind floor component map) := by
  refine arises_editActive (fun _ => rfl) s fun b => b.names_arise_mapFloor floor fun f => ?_
  cases kind with
  | restroom => exact f.names_arise_mapRestroom component fun _ => .inl rfl
  | corridor => exact f.names_arise_mapCorridor component fun _ => .inl rfl

theorem namesArise_setFixture (s : Session σ) (floor restroom : String) (fixture : Option String) :
    NamesArise s (s.setFixture floor restroom fixture) :=
  arises_editActive (fun _ => rfl) s fun b => b.names_arise_mapFloor floor fun f =>
    f.names_arise_mapRestroom restroom fun _ => .inl rfl

theorem namesArise_uploadMap (s : Session σ) (disk : Disk) (kind : ComponentKind)
    (floor component path : String) : NamesArise s (s.uploadMap disk kind floor component path) := by
  unfold uploadMap
  split
  · exact s.namesArise_setMap kind floor component _
  · exact .of_eq rfl

theorem namesArise_uploadFixture (s : Session σ) (disk : Disk) (floor restroom path : String) :
    NamesArise s (s.uploadFixture disk floor restroom path) := by
  unfold uploadFixture
  split
  · exact s.namesArise_setFixture floor restroom _
  · exact .of_eq rfl

theorem namesArise_switchTo (s : Session σ) (id : String) : NamesArise s (s.switchTo id) := by
  unfold switchTo
  split <;> exact .of_eq rfl

theorem namesArise_editStructure (s : Session σ) {e : Edit} (h : e.blanks = false) (clock : Clock) :
    NamesArise s (s.editStructure (e.applyTo · clock ·) clock).2 :=
  s.arises_editStructure (fun _ => rfl) (fun b stamps => e.names_arise h b clock stamps) clock

/-- The names of the edited building are there after an edit, also if that changes nothing. -/
theorem mem_allNames_editStructure {b : Building} {e : Edit} {n : String} (clock : Clock)
    (hb : s.collection.active? = some b) (hn : n ∈ (e.applyTo b clock s.stamps).1.allNames) :
    n ∈ (s.editStructure (e.applyTo · clock ·) clock).2.collection.allNames := by
  have hid := e.id_applyTo b clock s.stamps
  obtain ⟨b', hb', hsame⟩ := active?_editStructure (e.applyTo · clock ·) hb hid clock
  have hnames : b'.allNames = (e.applyTo b clock s.stamps).1.allNames := by
    calc b'.allNames
        = b'.unplaced.synced.allNames := (Building.allNames_unplaced b').symm
      _ = (e.applyTo b clock s.stamps).1.unplaced.synced.allNames := by rw [hsame]
      _ = (e.applyTo b clock s.stamps).1.allNames := Building.allNames_unplaced (e.applyTo ..).1
  exact List.mem_flatMap.2 ⟨b', Collection.mem_of_active? hb', hnames ▸ hn⟩

end Session

/-! ## What is selected -/

/-- A row of a component stands for one that is there. -/
theorem Building.exists_of_mem_nodes {b : Building} {node : LayoutNode} {kind : ComponentKind}
    {id : String} (h : node ∈ b.nodes) (hcomponent : node.component? = some (kind, id)) :
    ∃ f ∈ b.floors, f.id = node.floorId ∧ f.HasComponent kind id := by
  obtain ⟨f, hf, hnode⟩ := List.mem_flatMap.1 h
  refine ⟨f, hf, ?_⟩
  simp only [Floor.nodes, List.mem_cons, List.mem_append, List.mem_map, List.mem_flatMap,
    Corridor.nodes] at hnode
  rcases hnode with rfl | ⟨r, hr, rfl⟩ | ⟨c, hc, rfl | ⟨l, -, rfl⟩⟩
  · cases hcomponent
  · cases hcomponent
    exact ⟨rfl, r, hr, rfl⟩
  · cases hcomponent
    exact ⟨rfl, c, hc, rfl⟩
  · cases hcomponent

namespace App

variable {a a' : App σ} {clock : Clock} {key : Key} {disk : Disk}

omit [BlobStore σ] in
theorem exists_of_selectedNode? {node : LayoutNode} (h : a.selectedNode? = some node) :
    ∃ b, a.session.collection.active? = some b ∧ node ∈ b.nodes := by
  obtain ⟨row, hrow, rfl⟩ := Option.map_eq_some_iff.1 h
  have hmem := List.mem_of_getElem? hrow
  unfold rows at hmem
  split at hmem
  · rename_i b hb
    refine ⟨b, hb, ?_⟩
    rw [← Building.map_node_layoutRows]
    exact List.mem_map_of_mem hmem
  · cases hmem

/-! ## Keys -/

/-- The typed line gives the selected component the empty name: it is the command that gives a name,
    with no name behind it. -/
def Blanks (a : App σ) (key : Key) : Prop :=
  key = .enter ∧ a.panel = .input ∧ a.waitingSince = none ∧
    LocalCommand.parse? a.line = some (.ok (.onRow (.name ""))) ∧
    (a.selectedNode?.bind (·.component?)).isSome

instance (a : App σ) (key : Key) : Decidable (a.Blanks key) :=
  inferInstanceAs (Decidable (_ ∧ _))

omit [BlobStore σ] in
theorem session_syncSelection (a : App σ) : (syncSelection a).session = a.session := by
  unfold syncSelection
  split
  · rfl
  · split <;> rfl

theorem namesArise_edit (a : App σ) {e : Edit} (h : e.blanks = false) (clock : Clock) :
    a.session.NamesArise (a.edit e clock).session :=
  a.session.namesArise_editStructure h clock

theorem namesArise_rename (a : App σ) {node : LayoutNode} {name : String}
    (h : node.component? = none ∨ Text.allBlank name = false) (clock : Clock) :
    a.session.NamesArise (a.rename node name clock).session := by
  cases node with
  | floor f => exact a.namesArise_edit (e := .renameFloor f name) rfl clock
  | restroom f r =>
    exact a.namesArise_edit (e := .renameComponent .restroom f r name) (h.resolve_left nofun) clock
  | corridor f c =>
    exact a.namesArise_edit (e := .renameComponent .corridor f c name) (h.resolve_left nofun) clock
  | lift f c l => exact .of_eq rfl

theorem namesArise_runOn (a : App σ) {node : LayoutNode} {command : RowCommand}
    (h : ∀ name, command = .name name → node.component? = none ∨ Text.allBlank name = false)
    (clock : Clock) (disk : Disk) :
    a.session.NamesArise (a.runOn node command clock disk).session := by
  cases command with
  | name name => exact a.namesArise_rename (h name rfl) clock
  | map path =>
    cases node with
    | restroom f r => exact a.session.namesArise_uploadMap disk .restroom f r path
    | corridor f c => exact a.session.namesArise_uploadMap disk .corridor f c path
    | floor f | lift f c l => exact .of_eq rfl
  | unmap =>
    cases node with
    | restroom f r => exact a.session.namesArise_setMap .restroom f r none
    | corridor f c => exact a.session.namesArise_setMap .corridor f c none
    | floor f | lift f c l => exact .of_eq rfl
  | fixture path =>
    cases node with
    | restroom f r => exact a.session.namesArise_uploadFixture disk f r path
    | floor f | corridor f c | lift f c l => exact .of_eq rfl
  | unfixture =>
    cases node with
    | restroom f r => exact a.session.namesArise_setFixture f r none
    | floor f | corridor f c | lift f c l => exact .of_eq rfl

theorem namesArise_runLocal (a : App σ) {command : LocalCommand}
    (h : ∀ name node, command = .onRow (.name name) → a.selectedNode? = some node →
      node.component? = none ∨ Text.allBlank name = false)
    (clock : Clock) (disk : Disk) :
    a.session.NamesArise (a.runLocal command clock disk).session := by
  cases command with
  | clear =>
    simp only [runLocal, session_syncSelection]
    exact fun _ hn => absurd hn List.not_mem_nil
  | onRow command =>
    simp only [runLocal]
    split
    · exact .of_eq rfl
    · rename_i node hnode
      exact a.namesArise_runOn (fun name hname => h name node (by rw [hname]) hnode) clock disk

theorem ofVerb_eq_name {verb argument name : String}
    (h : LocalCommand.ofVerb verb argument = .ok (.onRow (.name name))) : name = argument := by
  simp only [LocalCommand.ofVerb] at h
  split at h
  · split at h <;> cases h
  · split at h <;> cases h
  · cases h
    rfl
  all_goals cases h

/-- The name that is given is stripped of white space. If it is blank there is none. -/
theorem eq_empty_of_parse? {line name : String}
    (h : LocalCommand.parse? line = some (.ok (.onRow (.name name))))
    (hblank : Text.allBlank name = true) : name = "" := by
  unfold LocalCommand.parse? at h
  split at h
  · have hname := ofVerb_eq_name (Option.some.inj h)
    rw [hname, ← trim_of_allBlank hblank, hname]
    simp only [Text.trim, String.toList_ofList]
    rw [(Text.trimmed_trimChars _).trimChars_eq]
  · cases h

/-- What enter does to names in the typed line. -/
theorem namesArise_submit (h : ¬ a.Blanks .enter) (hpanel : a.panel = .input) (clock : Clock)
    (disk : Disk) : a.session.NamesArise (a.submit clock disk).session := by
  unfold submit
  split
  · exact .of_eq rfl
  · rename_i hwaiting
    have hidle : a.waitingSince = none := by simpa using hwaiting
    split
    · rename_i command hparse
      refine namesArise_runLocal { a with line := "" } (fun name node hcommand hnode => ?_) clock disk
      subst hcommand
      by_contra hnot
      obtain ⟨hcomponent, hblank⟩ := not_or.1 hnot
      have hempty := eq_empty_of_parse? hparse (by simpa using hblank)
      subst hempty
      refine h ⟨rfl, hpanel, hidle, hparse, ?_⟩
      -- The line has been taken out of the input, but the selected row is the same.
      have hselected : a.selectedNode? = some node := hnode
      rw [hselected, Option.bind_some]
      exact Option.isSome_iff_ne_none.2 hcomponent
    · exact .of_eq rfl
    · -- The line is not a local command. Whether it is taken up or not, names stay as they are.
      have htalks := (a.session.talks_start a.line clock).namesArise
      split
      · rename_i session hstart
        rw [hstart] at htalks
        exact htalks
      · rename_i session hstart
        rw [hstart] at htalks
        exact htalks

theorem namesArise_inputKeyPress (h : ¬ a.Blanks key) (hpanel : a.panel = .input) (clock : Clock)
    (disk : Disk) : a.session.NamesArise (a.inputKeyPress key clock disk).session := by
  cases key with
  | enter => exact namesArise_submit h hpanel clock disk
  | _ => exact .of_eq rfl

theorem namesArise_addComponent (a : App σ) (kind : ComponentKind) (clock : Clock) :
    a.session.NamesArise (a.addComponent kind clock).session := by
  unfold addComponent
  split
  · exact .of_eq rfl
  · exact a.namesArise_edit rfl clock

theorem namesArise_addLift (a : App σ) (clock : Clock) :
    a.session.NamesArise (a.addLift clock).session := by
  unfold addLift
  split
  · exact a.namesArise_edit rfl clock
  · exact a.namesArise_edit rfl clock
  · exact .of_eq rfl

theorem namesArise_deleteSelected (a : App σ) (clock : Clock) :
    a.session.NamesArise (a.deleteSelected clock).session := by
  unfold deleteSelected
  split
  · exact .of_eq rfl
  all_goals exact a.namesArise_edit rfl clock

theorem namesArise_layoutKeyPress (a : App σ) (key : Key) (clock : Clock) :
    a.session.NamesArise (a.layoutKeyPress key clock).session := by
  have hdown : a.session.NamesArise (if wrap (a.selectedRow + 1) < a.rows.length then
      { a with selectedRow := wrap (a.selectedRow + 1) } else a).session := by
    split <;> exact .of_eq rfl
  unfold layoutKeyPress
  split
  · exact .of_eq rfl
  · split
    · exact .of_eq rfl
    · exact .of_eq rfl
    · exact .of_eq rfl
    · exact hdown
    · exact hdown
    · exact a.namesArise_edit rfl clock
    · exact a.namesArise_addComponent .restroom clock
    · exact a.namesArise_addComponent .corridor clock
    · exact a.namesArise_addLift clock
    · exact a.namesArise_deleteSelected clock
    · exact a.namesArise_deleteSelected clock
    all_goals exact .of_eq rfl

theorem namesArise_activateSelected (a : App σ) :
    a.session.NamesArise a.activateSelected.session := by
  unfold activateSelected
  split
  · exact .of_eq rfl
  · exact a.session.namesArise_switchTo _

theorem namesArise_buildingsKeyPress (a : App σ) (key : Key) :
    a.session.NamesArise (a.buildingsKeyPress key).session := by
  have hdown : a.session.NamesArise
      (if a.selectedBuilding < a.session.collection.buildings.length - 1 then
        { a with selectedBuilding := a.selectedBuilding + 1 } else a).session := by
    split <;> exact .of_eq rfl
  unfold buildingsKeyPress
  split
  · exact .of_eq rfl
  · exact .of_eq rfl
  · exact .of_eq rfl
  · exact hdown
  · exact hdown
  · exact a.namesArise_activateSelected
  · exact .of_eq rfl

/-- **Where the names come from after a key**, unless it gives a component the empty name. -/
theorem namesArise_press (h : ¬ a.Blanks key) (control : Bool) (clock : Clock) (disk : Disk) :
    a.session.NamesArise (a.press key control clock disk).session := by
  unfold press
  split
  · exact .of_eq rfl
  · split
    · exact .of_eq rfl
    · exact .of_eq rfl
    · exact .of_eq rfl
    · exact .of_eq rfl
    · exact .of_eq rfl
    · split
      · exact a.namesArise_buildingsKeyPress key
      · exact a.namesArise_layoutKeyPress key clock
      · exact namesArise_inputKeyPress h ‹_› clock disk

/-- A key that gives a component the empty name. -/
theorem empty_mem_press (h : a.Blanks key) (control : Bool) (clock : Clock) (disk : Disk) :
    "" ∈ (a.press key control clock disk).session.collection.allNames := by
  obtain ⟨rfl, hpanel, hidle, hparse, hselected⟩ := h
  obtain ⟨⟨kind, id⟩, hselected⟩ := Option.isSome_iff_exists.1 hselected
  obtain ⟨node, hnode, hcomponent⟩ := Option.bind_eq_some_iff.1 hselected
  obtain ⟨b, hb, hmem⟩ := exists_of_selectedNode? hnode
  obtain ⟨f, hf, hfloor, hthere⟩ := Building.exists_of_mem_nodes hmem hcomponent
  have hsubmit : a.inputKeyPress .enter clock disk = a.submit clock disk := rfl
  have hpress : a.press .enter control clock disk
      = ({ a with line := "" } : App σ).runLocal (.onRow (.name "")) clock disk := by
    simp [press, hpanel, hsubmit, submit, hidle, hparse]
  have hrun : ({ a with line := "" } : App σ).runLocal (.onRow (.name "")) clock disk
      = ({ a with line := "" } : App σ).rename node "" clock := by
    have hsame : ({ a with line := "" } : App σ).selectedNode? = some node := hnode
    simp only [runLocal, hsame, runOn]
  -- The empty name is blank, so it is what the component is called after the edit.
  have hempty := Session.mem_allNames_editStructure (e := .renameComponent kind f.id id "") clock hb
    (Building.empty_mem_renameComponent rfl hf hthere)
  rw [hpress, hrun]
  rw [hfloor] at hempty
  cases node with
  | restroom floor r =>
    cases hcomponent
    exact hempty
  | corridor floor c =>
    cases hcomponent
    exact hempty
  | floor | lift => cases hcomponent

theorem namesArise_receiveAndFollow (h : a.receiveAndFollow clock = .ok a') :
    a.session.NamesArise a'.session := by
  simp only [receiveAndFollow, receive] at h
  cases hfinish : a.session.finish clock with
  | error fault =>
    rw [hfinish] at h
    cases h
  | ok r =>
    rw [hfinish] at h
    cases h
    rw [session_syncSelection]
    exact (Session.talks_finish hfinish).namesArise

/-! ## Runs -/

/-- What happens to the application, with how it is before and after. -/
structure Turn (σ : Type) where
  before : App σ
  event : Event
  after : App σ

/-- The turns of a run. They end early if the run does. -/
def turns (a : App σ) : List (Event × Clock) → List (Turn σ)
  | [] => []
  | (event, clock) :: events =>
    match a.step event clock with
    | .error _ => []
    | .ok next => ⟨a, event, next⟩ :: next.turns events

/-- If each event keeps a property exactly when another one holds of the turn, then either holds of all
    turns or neither does. -/
theorem turns_iff {p : App σ → Prop} {q : Turn σ → Prop} {events : List (Event × Clock)}
    (hstep : ∀ a event clock a', p a → a.step event clock = .ok a' → (p a' ↔ q ⟨a, event, a'⟩))
    (hstart : p a) : (∀ t ∈ a.turns events, p t.after) ↔ ∀ t ∈ a.turns events, q t := by
  induction events generalizing a with
  | nil => simp [turns]
  | cons x events ih =>
    simp only [turns]
    split
    · simp
    · rename_i next hnext
      simp only [List.forall_mem_cons]
      rw [← hstep a x.1 x.2 next hstart hnext]
      -- Once the property is lost it does not matter what follows.
      exact and_congr_right ih

/-- The event is a key that gives a component the empty name. -/
def Turn.Blanks (t : Turn σ) : Prop :=
  match t.event with
  | .key key _ _ => t.before.Blanks key
  | .pauseOver => False

instance : (t : Turn σ) → Decidable t.Blanks
  | ⟨a, .key key _ _, _⟩ => inferInstanceAs (Decidable (a.Blanks key))
  | ⟨_, .pauseOver, _⟩ => inferInstanceAs (Decidable False)

/-- Every name in every building is proper. -/
def ProperlyNamed (a : App σ) : Prop := a.session.collection.ProperlyNamed

instance (a : App σ) : Decidable a.ProperlyNamed :=
  inferInstanceAs (Decidable a.session.collection.ProperlyNamed)

theorem step_properlyNamed_iff {event : Event} (ha : a.ProperlyNamed)
    (h : a.step event clock = .ok a') : a'.ProperlyNamed ↔ ¬ Turn.Blanks ⟨a, event, a'⟩ := by
  cases event with
  | key key control disk =>
    cases h
    by_cases hblanks : a.Blanks key
    · exact iff_of_false (fun hproper => not_properName_empty
        (hproper "" (empty_mem_press hblanks control clock disk))) (not_not_intro hblanks)
    · exact iff_of_true ((namesArise_press hblanks control clock disk).properlyNamed ha) hblanks
  | pauseOver =>
    refine iff_of_true ?_ not_false
    simp only [step] at h
    split at h
    · exact (namesArise_receiveAndFollow h).properlyNamed ha
    · cases h
      exact ha

/-- **When all names are proper.** Whatever keys are pressed in the application when it was started on
    an empty store, and whatever lines are typed, sent and answered, the names of all buildings,
    restrooms and corridors, and of all floors that were given one, are proper at every moment if and
    only if the empty name is never given to a component. -/
theorem properlyNamed_iff {store : σ} (hstore : BlobStore.get store buildingsKey = .ok none)
    (opening : Clock) (events : List (Event × Clock)) :
    (∀ t ∈ (ofSession (Session.restore store opening)).turns events, t.after.ProperlyNamed) ↔
      ∀ t ∈ (ofSession (Session.restore store opening)).turns events, ¬ t.Blanks := by
  refine turns_iff (fun a event clock a' => step_properlyNamed_iff) ?_
  rw [ProperlyNamed, ofSession, session_syncSelection, Session.collection_restore hstore]
  exact fun _ hn => nomatch hn

/-- The turns from an empty store, where the clock stands still. -/
def fresh (events : List Event) : List (Turn MemoryStore) :=
  (ofSession (Session.restore {} (.still 1000))).turns (events.map (·, .still 1000))

/-- A building with one restroom is made, and the restroom is selected. -/
def furnished : List Event :=
  Event.sending "create Tower with 1 floor, 1 restroom" ++
    [.pauseOver, .pressing .backTab, .pressing .down]

/-- The restroom is given a name with white space around it, and the floor a name and then none. -/
def relabelled : List Event :=
  furnished ++ [.pressing (.char 'n')] ++ Event.sending " Den " ++
    [.pressing .backTab, .pressing .up, .pressing (.char 'n')] ++ Event.sending "Hall" ++
    [.pressing .backTab, .pressing (.char 'n'), .pressing .enter]

set_option maxRecDepth 100000 in
theorem relabelled_properlyNamed :
    ((fresh relabelled).map (·.after.session.collection.allNames)).dedup
        = [[], ["Tower", "Restroom 1", "Corridor 1"], ["Tower", "Hall", "Den", "Corridor 1"],
          ["Tower", "Den", "Corridor 1"]] ∧
      ∀ t ∈ fresh relabelled, t.after.ProperlyNamed :=
  ⟨by decide +kernel, (properlyNamed_iff rfl (.still 1000) _).2 (by decide +kernel)⟩

/-- The restroom is to be given a name, but none is typed. -/
def nameless : List Event := furnished ++ [.pressing (.char 'n'), .pressing .enter]

set_option maxRecDepth 100000 in
theorem nameless_improper : ¬ ∀ t ∈ fresh nameless, t.after.ProperlyNamed := by
  decide +kernel

end App

end Floorplan
