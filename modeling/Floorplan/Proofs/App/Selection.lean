import Floorplan.Proofs.App.Run
import Floorplan.Proofs.Session.Transcript
import Floorplan.Screen.Dashboard

set_option autoImplicit false

/-! # What is selected

Whatever keys are pressed and whenever replies come, the selected building and the selected row are
there, unless there is nothing to select, and a reply is awaited exactly while a line is being answered
(`App.run_coherent`). The selected row is on the screen wherever the layout has room for a row.

The number of rows changes under the selection in several ways, and each of them takes care of it on its
own. What they rely on is that buildings keep their places until all of them are forgotten, and that
attaching something to a component leaves the number of rows alone. Ids need not be distinct for that,
and the id of the active building need not belong to one. -/

namespace Floorplan

/-! ## Buildings keep their places -/

/-- The buildings keep their places and ids, and others may follow. -/
def Collection.Extends (c c' : Collection) : Prop :=
  c.buildings.map (·.id) <+: c'.buildings.map (·.id)

namespace Collection

variable {c c' : Collection}

theorem Extends.refl (c : Collection) : c.Extends c := List.prefix_rfl

theorem Extends.length_le (h : c.Extends c') : c.buildings.length ≤ c'.buildings.length := by
  simpa using List.IsPrefix.length_le h

theorem extends_withBuilding (c : Collection) (b : Building) : c.Extends (c.withBuilding b) := by
  simp only [Extends, map_id_withBuilding, List.prefix_rfl]

theorem extends_withNewActive (c : Collection) (b : Building) : c.Extends (c.withNewActive b) := by
  rw [Extends, withNewActive, List.map_append]
  exact List.prefix_append ..

end Collection

/-- No intent takes a building away. -/
theorem Intent.Effect.extends {c : Collection} {clock : Clock} {stamps stamps' : Stamps}
    {intent : Intent} {o : Outcome} (h : Effect c clock stamps intent o stamps') :
    c.Extends (o.collection.getD c) := by
  cases h with
  | answered => exact .refl c
  | switched => exact .refl c
  | created => exact c.extends_withNewActive _
  | turned => exact c.extends_withBuilding _

theorem dispatch_extends {c : Collection} {text : String} {clock : Clock} {stamps stamps' : Stamps}
    {o : Outcome} (h : dispatch c text clock stamps = .ok (o, stamps')) :
    c.Extends (o.collection.getD c) := by
  unfold dispatch at h
  split at h
  · exact (Intent.apply_effect h).extends
  · cases h
    exact .refl c

namespace Session

variable {σ : Type} [BlobStore σ]

/-- A session has the buildings of another in their places, and answers the same line. -/
structure Keeps (s s' : Session σ) : Prop where
  collection : s.collection.Extends s'.collection
  pending_eq : s'.pending = s.pending

omit [BlobStore σ] in
theorem Keeps.refl (s : Session σ) : Keeps s s := ⟨.refl s.collection, rfl⟩

theorem keeps_editActive (s : Session σ) (edit : Building → Building) :
    Keeps s (s.editActive edit) := by
  unfold editActive
  split
  · exact .refl s
  · exact ⟨s.collection.extends_withBuilding _, rfl⟩

theorem keeps_editStructure (s : Session σ) (edit : Building → Stamps → Building × Stamps)
    (clock : Clock) : Keeps s (s.editStructure edit clock).2 := by
  cases hb : s.collection.active? with
  | none =>
    simp only [editStructure, hb]
    exact .refl s
  | some b =>
    simp only [editStructure, hb]
    split
    · exact ⟨.refl s.collection, rfl⟩
    · exact ⟨s.collection.extends_withBuilding _, rfl⟩

theorem keeps_switchTo (s : Session σ) (id : String) : Keeps s (s.switchTo id) := by
  unfold switchTo
  split
  · exact .refl s
  · exact ⟨.refl s.collection, rfl⟩

/-- After the line that was taken up has been answered, if there was one, none is being answered. -/
theorem finish_keeps {s s' : Session σ} {clock : Clock} {reply : Option String}
    (h : s.finish clock = .ok (reply, s')) :
    s.collection.Extends s'.collection ∧ s'.pending = none := by
  cases hpending : s.pending with
  | none =>
    simp only [finish, hpending] at h
    cases h
    exact ⟨.refl s.collection, hpending⟩
  | some text =>
    obtain ⟨o, stamps, hdispatch, rfl, rfl⟩ := finish_eq hpending h
    refine ⟨?_, pending_answered s o stamps clock⟩
    rw [collection_answered]
    exact dispatch_extends hdispatch

end Session

/-! ## Selecting -/

/-- Something in a list is selected, unless there is nothing to select. -/
def Selects {α : Type} (i : Nat) (xs : List α) : Prop := i < xs.length ∨ xs = [] ∧ i = 0

section Selects

variable {α β : Type} {i j : Nat} {xs : List α} {ys : List β}

theorem selects_iff : Selects i xs ↔ i ≤ xs.length - 1 := by
  rw [Selects, ← List.length_eq_zero_iff]
  omega

theorem Selects.zero (xs : List α) : Selects 0 xs := selects_iff.2 (Nat.zero_le _)

theorem Selects.mono (h : Selects i xs) (hle : xs.length ≤ ys.length) : Selects i ys := by
  rw [selects_iff] at h ⊢
  omega

theorem Selects.move (h : Selects i xs) (hj : j ≤ i ∨ j < xs.length) : Selects j xs := by
  rw [selects_iff] at h ⊢
  omega

theorem selects_min (i : Nat) (xs : List α) : Selects (min i (xs.length - 1)) xs :=
  selects_iff.2 (Nat.min_le_right ..)

end Selects

namespace App

variable {σ : Type}

/-! ## The window of the layout -/

theorem window_selectedRow (selected : Nat) {visible : Nat} (hvisible : 0 < visible) :
    Screen.listOffset selected visible ≤ selected ∧
      selected < Screen.listOffset selected visible + visible := by
  unfold Screen.listOffset
  split <;> omega

/-- A row in the window is shown, with its place. -/
theorem mem_shownRows {a : App σ} {visible i : Nat} {r : LayoutRow} (hr : a.rows[i]? = some r)
    (hfirst : Screen.listOffset a.selectedRow visible ≤ i)
    (hlast : i < Screen.listOffset a.selectedRow visible + visible) :
    (r, i) ∈ a.shownRows visible := by
  have hplace : Screen.listOffset a.selectedRow visible
      + (i - Screen.listOffset a.selectedRow visible) = i := by omega
  have hnumbered : a.rows.zipIdx[i]? = some (r, i) := by
    rw [List.getElem?_zipIdx, hr, Option.map_some, Nat.zero_add]
  refine List.mem_iff_getElem?.2 ⟨i - Screen.listOffset a.selectedRow visible, ?_⟩
  rw [shownRows, List.getElem?_take_of_lt (by omega), List.getElem?_drop, hplace, hnumbered]

variable {a a' : App σ} {b : Building} {clock : Clock} {key : Key}

/-! ## A selection that is there -/

/-- What is selected is there, and a reply is awaited exactly while a line is being answered. -/
structure Coherent (a : App σ) : Prop where
  row : Selects a.selectedRow a.rows
  building : Selects a.selectedBuilding a.session.collection.buildings
  waiting : a.waitingSince.isSome = a.session.isProcessing

theorem coherent_clampRow (hbuilding : Selects a.selectedBuilding a.session.collection.buildings)
    (hwaiting : a.waitingSince.isSome = a.session.isProcessing) : a.clampRow.Coherent :=
  ⟨selects_min a.selectedRow a.rows, hbuilding, hwaiting⟩

/-- Following the active building makes up for any row, and for any building where none is to be
    active. -/
theorem coherent_syncSelection
    (hbuilding : a.session.collection.activeId = none ∨
      Selects a.selectedBuilding a.session.collection.buildings)
    (hwaiting : a.waitingSince.isSome = a.session.isProcessing) : (syncSelection a).Coherent := by
  unfold syncSelection
  refine coherent_clampRow ?_ ?_
  · split
    · exact .zero _
    · rename_i id hid
      split
      · exact hbuilding.resolve_left (by rw [hid]; exact Option.some_ne_none id)
      · rename_i i hi
        exact .inl (List.findIdx?_eq_some_iff_getElem.1 hi).1
  · split
    · exact hwaiting
    · split <;> exact hwaiting

/-- The application at its start has a selection that is there, whatever was restored. -/
theorem coherent_ofSession {s : Session σ} (hidle : s.isProcessing = false) :
    (ofSession s).Coherent :=
  coherent_syncSelection (.inr (.zero _)) hidle.symm

namespace Coherent

variable {s : Session σ}

theorem building_of_keeps (h : a.Coherent) (hkeeps : a.session.Keeps s) :
    Selects a.selectedBuilding s.collection.buildings :=
  h.building.mono hkeeps.collection.length_le

theorem waiting_of_keeps (h : a.Coherent) (hkeeps : a.session.Keeps s) :
    a.waitingSince.isSome = s.isProcessing := by
  rw [h.waiting, Session.isProcessing, Session.isProcessing, hkeeps.pending_eq]

end Coherent

theorem rows_of_active? (hb : a.session.collection.active? = some b) : a.rows = b.layoutRows := by
  simp only [rows, hb]

variable [BlobStore σ]

/-- Attaching something to components leaves the number of rows alone. -/
theorem length_rows_editActive (a : App σ) {edit : Building → Building}
    (hid : ∀ b, (edit b).id = b.id) (hnodes : ∀ b, (edit b).nodes = b.nodes) :
    ({ a with session := a.session.editActive edit } : App σ).rows.length = a.rows.length := by
  cases hb : a.session.collection.active? with
  | none => simp only [Session.editActive, hb]
  | some b =>
    have hedited : (a.session.editActive edit).collection.active? = some (edit b) := by
      simp only [Session.editActive, hb]
      exact Collection.active?_withBuilding hb (hid b)
    rw [rows_of_active? hb, rows_of_active? hedited, Building.length_layoutRows,
      Building.length_layoutRows, hnodes]

namespace Coherent

/-- What a key comes to has a selection that is there. -/
theorem takes (h : a.Coherent) (htakes : Takes clock a key a') : a'.Coherent := by
  cases htakes with
  | moved panel line scroll status quit hbuilding hrow =>
    exact ⟨h.row.move hrow, h.building.move hbuilding, h.waiting⟩
  | @activated b hpanel hb =>
    have hkeeps := a.session.keeps_switchTo b.id
    exact ⟨.zero _, h.building_of_keeps hkeeps, h.waiting_of_keeps hkeeps⟩
  | edited e line status hidle =>
    have hkeeps := a.session.keeps_editStructure (e.applyTo · clock ·) clock
    have hedited : (a.edit e clock).Coherent :=
      coherent_clampRow (h.building_of_keeps hkeeps) (h.waiting_of_keeps hkeeps)
    exact ⟨hedited.row, hedited.building, hedited.waiting⟩
  | @attached _ edit hid hnodes line status hidle =>
    have hkeeps := a.session.keeps_editActive edit
    have hrow := h.row.mono (a.length_rows_editActive hid hnodes).ge
    exact ⟨hrow, h.building_of_keeps hkeeps, h.waiting_of_keeps hkeeps⟩
  | cleared line status hidle =>
    have hcleared : (syncSelection { a with session := a.session.clear clock }).Coherent :=
      coherent_syncSelection (.inl rfl) (by rw [hidle]; rfl)
    exact ⟨hcleared.row, hcleared.building, hcleared.waiting⟩
  | submitted text since hidle hfree => exact ⟨h.row, h.building, rfl⟩

/-- After a reply, what is selected is there. -/
theorem receiveAndFollow (h : a.Coherent) (hreply : a.receiveAndFollow clock = .ok a') :
    a'.Coherent := by
  cases hfinish : a.session.finish clock with
  | error fault =>
    simp only [App.receiveAndFollow, receive, hfinish] at hreply
    cases hreply
  | ok result =>
    obtain ⟨reply, s⟩ := result
    obtain ⟨hextends, hidle⟩ := Session.finish_keeps hfinish
    simp only [App.receiveAndFollow, receive, hfinish] at hreply
    cases hreply
    refine coherent_syncSelection (.inr (h.building.mono hextends.length_le)) ?_
    rw [Session.isProcessing, hidle]
    rfl

theorem step {event : Event} (h : a.Coherent) (hstep : a.step event clock = .ok a') :
    a'.Coherent := by
  cases event with
  | key key control disk =>
    cases hstep
    exact h.takes (a.press_takes key control clock disk)
  | pauseOver =>
    simp only [App.step] at hstep
    split at hstep
    · exact h.receiveAndFollow hstep
    · cases hstep
      exact h

end Coherent

/-- **What is selected is there**, whatever keys are pressed and whenever replies come, and the selected
    row is among those that the layout shows wherever it has room for a row. -/
theorem run_coherent {s : Session σ} (hidle : s.isProcessing = false)
    {events : List (Event × Clock)} (hrun : (ofSession s).run events = .ok a) :
    a.Coherent ∧
      ∀ visible, 0 < visible → ∀ r, a.rows[a.selectedRow]? = some r →
        Screen.listOffset a.selectedRow visible ≤ a.selectedRow ∧
        a.selectedRow < Screen.listOffset a.selectedRow visible + visible ∧
        (r, a.selectedRow) ∈ a.shownRows visible := by
  have hcoherent : a.Coherent :=
    run_induction (fun _ _ _ _ h hstep => h.step hstep) (coherent_ofSession hidle) hrun
  refine ⟨hcoherent, fun visible hvisible r hr => ?_⟩
  obtain ⟨hfirst, hlast⟩ := window_selectedRow a.selectedRow hvisible
  exact ⟨hfirst, hlast, mem_shownRows hr hfirst hlast⟩

/-- A session whose active building is not there. -/
def astray : Session MemoryStore :=
  { store := {}
    collection := ⟨[.generate "shed" "Shed" 1 0 0 0], some "lost"⟩
    messages := [] }

/-- A hall is asked for, and the shed is gone to before the reply comes; then the sixth row of the hall
    is selected, which is a corridor of its upper floor, and the corridor is removed. -/
def remodelled : List Event :=
  Event.sending "create Hall with 2 floors, 0 restrooms" ++
    [.pressing .tab, .pressing .enter, .pauseOver] ++
    List.replicate 5 (.pressing .down) ++ [.pressing .delete]

theorem remodelled_coherent :
    astray.isProcessing = false ∧
    ∃ a, (ofSession astray).run (remodelled.map (·, .still 1000)) = .ok a ∧ a.selectedRow = 4 ∧
      a.Coherent ∧
      ∀ visible, 0 < visible → ∀ r, a.rows[a.selectedRow]? = some r →
        Screen.listOffset a.selectedRow visible ≤ a.selectedRow ∧
        a.selectedRow < Screen.listOffset a.selectedRow visible + visible ∧
        (r, a.selectedRow) ∈ a.shownRows visible := by
  obtain ⟨a, hrun, hrow⟩ := exists_of_run_isOk (p := fun a => a.selectedRow = 4)
    (r := (ofSession astray).run (remodelled.map (·, .still 1000))) (by decide +kernel)
  exact ⟨rfl, a, hrun, by simpa using hrow, run_coherent rfl hrun⟩

end App

end Floorplan
