import Floorplan.App.Basic
import Floorplan.Proofs.App.Row
import Floorplan.Proofs.Session.Action

set_option autoImplicit false

/-! # Runs of the application

What happens to the application is one event after another: a key, or the end of the pause before a
reply, in any order and each with a clock of its own. A run ends early only in a fault.

`App.Takes` lists what a key can come to: moving around, making a building active, editing the active
one, attaching something to it, forgetting all buildings, or taking up a line. `App.press_takes` says that
there is nothing else, and what holds of all keys is proved by cases on it. -/

namespace Floorplan

namespace App

/-- What happens to the application. -/
inductive Event where
  /-- A key, perhaps with the control key held, with the files that can be read then. -/
  | key (key : Key) (control : Bool) (disk : Disk)
  /-- The end of the pause before a reply. -/
  | pauseOver

namespace Event

/-- A key without the control key, where there are no files. -/
def pressing (k : Key) : Event := .key k false .empty

/-- The keys that type a line and send it. -/
def sending (line : String) : List Event :=
  (line.toList.map fun c => pressing (.char c)) ++ [pressing .enter]

end Event

variable {σ : Type} [BlobStore σ]

/-- What an event comes to. Without an awaited reply the pause does not end. -/
def step (a : App σ) (event : Event) (clock : Clock) : Except Fault (App σ) :=
  match event with
  | .key key control disk => .ok (a.press key control clock disk)
  | .pauseOver => if a.waitingSince.isSome then a.receiveAndFollow clock else .ok a

/-- What a sequence of events comes to. -/
def run (a : App σ) : List (Event × Clock) → Except Fault (App σ)
  | [] => .ok a
  | (event, clock) :: events =>
    match a.step event clock with
    | .error fault => .error fault
    | .ok a => a.run events

variable {a a' : App σ} {clock : Clock} {disk : Disk} {key : Key}

omit [BlobStore σ] in
/-- A run that is found to end as it should has an end. -/
theorem exists_of_run_isOk {r : Except Fault (App σ)} {p : App σ → Bool}
    (h : (match r with | .ok a => p a | .error _ => false) = true) : ∃ a, r = .ok a ∧ p a := by
  rcases r with fault | a
  · cases h
  · exact ⟨a, rfl, h⟩

/-- What each event keeps holds in the end. -/
theorem run_induction {p : App σ → Prop} {events : List (Event × Clock)}
    (hstep : ∀ a event clock a', p a → a.step event clock = .ok a' → p a') (hstart : p a)
    (h : a.run events = .ok a') : p a' := by
  induction events generalizing a with
  | nil =>
    cases h
    exact hstart
  | cons x events ih =>
    simp only [run] at h
    split at h
    · cases h
    · rename_i next hnext
      exact ih (hstep a x.1 x.2 next hstart hnext) h

/-! ## What a key comes to -/

/-- What a key comes to. -/
inductive Takes (clock : Clock) (a : App σ) : Key → App σ → Prop
  /-- Nothing is done with the session, and what is selected stays or is moved to something else. -/
  | moved {key : Key} {building row : Nat} (panel : Panel) (line : String) (scroll : Nat)
      (status : Option String) (quit : Bool)
      (hbuilding : building ≤ a.selectedBuilding ∨ building < a.session.collection.buildings.length)
      (hrow : row ≤ a.selectedRow ∨ row < a.rows.length) :
      Takes clock a key { a with
        panel, selectedBuilding := building, selectedRow := row, line, scroll, status, quit }
  /-- The selected building is made active. -/
  | activated {b : Building} (hpanel : a.panel = .buildings)
      (hb : a.session.collection.buildings[a.selectedBuilding]? = some b) :
      Takes clock a .enter { a with
        session := a.session.switchTo b.id, selectedRow := 0, panel := .layout }
  /-- The active building is edited. -/
  | edited {key : Key} (e : Edit) (line : String) (status : Option String)
      (hidle : a.waitingSince = none) :
      Takes clock a key { a.edit e clock with line, status }
  /-- Something is attached to a component or taken away. -/
  | attached {key : Key} {edit : Building → Building} (hid : ∀ b, (edit b).id = b.id)
      (hnodes : ∀ b, (edit b).nodes = b.nodes) (line : String) (status : Option String)
      (hidle : a.waitingSince = none) :
      Takes clock a key { a with session := a.session.editActive edit, line, status }
  /-- All buildings are forgotten. -/
  | cleared {key : Key} (line : String) (status : Option String) (hidle : a.waitingSince = none) :
      Takes clock a key
        { syncSelection { a with session := a.session.clear clock } with line, status }
  /-- A line is taken up, and its reply is awaited. -/
  | submitted {key : Key} (text : String) (since : Nat) (hidle : a.waitingSince = none)
      (hfree : a.session.pending = none) :
      Takes clock a key { a with
        session := a.session.taken text clock, line := "", status := none, scroll := 0
        waitingSince := some since }

/-- What is selected stays. -/
theorem Takes.still (a : App σ) (clock : Clock) (key : Key) (panel : Panel) (line : String)
    (scroll : Nat) (status : Option String) (quit : Bool) :
    Takes clock a key { a with panel, line, scroll, status, quit } :=
  .moved panel line scroll status quit (.inl le_rfl) (.inl le_rfl)

theorem Takes.refl (a : App σ) (clock : Clock) (key : Key) : Takes clock a key a :=
  .still a clock key a.panel a.line a.scroll a.status a.quit

/-! ### Local commands

A local command runs when the line that it stood in has been taken out of the input. So these are about
the application with another line. -/

theorem rename_takes (hidle : a.waitingSince = none) (line : String) (node : LayoutNode)
    (name : String) : Takes clock a key (({ a with line } : App σ).rename node name clock) := by
  cases node with
  | floor f => exact .edited (.renameFloor f name) line none hidle
  | restroom f r => exact .edited (.renameComponent .restroom f r name) line none hidle
  | corridor f c => exact .edited (.renameComponent .corridor f c name) line none hidle
  | lift f c l => exact .still a clock key a.panel line a.scroll _ a.quit

/-- Setting a map leaves the ids and what the rows stand for alone. -/
theorem setMap_takes (hidle : a.waitingSince = none) (kind : ComponentKind)
    (floor component : String) (map : Option String) (line : String) (status : Option String) :
    Takes clock a key
      { a with session := a.session.setMap kind floor component map, line, status } := by
  refine .attached ?_ ?_ line status hidle
  · exact fun b => rfl
  · intro b
    refine Building.nodes_mapFloor floor fun f => ?_
    cases kind with
    | restroom => exact f.nodes_mapRestroom component fun _ => rfl
    | corridor => exact f.nodes_mapCorridor component fun _ _ => rfl

theorem setFixture_takes (hidle : a.waitingSince = none) (floor restroom : String)
    (fixture : Option String) (line : String) (status : Option String) :
    Takes clock a key
      { a with session := a.session.setFixture floor restroom fixture, line, status } := by
  refine .attached ?_ ?_ line status hidle
  · exact fun b => rfl
  · exact fun b => Building.nodes_mapFloor floor fun f => f.nodes_mapRestroom restroom fun _ => rfl

theorem uploadMap_takes (hidle : a.waitingSince = none) (disk : Disk) (kind : ComponentKind)
    (floor component path : String) (line : String) (status : Option String) :
    Takes clock a key
      { a with session := a.session.uploadMap disk kind floor component path, line, status } := by
  unfold Session.uploadMap
  split
  · exact setMap_takes hidle kind floor component _ line status
  · exact .still a clock key a.panel line a.scroll status a.quit

theorem uploadFixture_takes (hidle : a.waitingSince = none) (disk : Disk)
    (floor restroom path : String) (line : String) (status : Option String) :
    Takes clock a key
      { a with session := a.session.uploadFixture disk floor restroom path, line, status } := by
  unfold Session.uploadFixture
  split
  · exact setFixture_takes hidle floor restroom _ line status
  · exact .still a clock key a.panel line a.scroll status a.quit

theorem runOn_takes (hidle : a.waitingSince = none) (line : String) (node : LayoutNode)
    (command : RowCommand) (disk : Disk) :
    Takes clock a key (({ a with line } : App σ).runOn node command clock disk) := by
  have hrefused : ∀ message,
      Takes clock a key { a with line, status := some message } := fun message =>
    .still a clock key a.panel line a.scroll _ a.quit
  cases command with
  | name name => exact rename_takes hidle line node name
  | map path =>
    cases node with
    | restroom f r => exact uploadMap_takes hidle disk .restroom f r path line _
    | corridor f c => exact uploadMap_takes hidle disk .corridor f c path line _
    | floor f | lift f c l => exact hrefused noMapHere
  | unmap =>
    cases node with
    | restroom f r => exact setMap_takes hidle .restroom f r none line _
    | corridor f c => exact setMap_takes hidle .corridor f c none line _
    | floor f | lift f c l => exact hrefused noMapHere
  | fixture path =>
    cases node with
    | restroom f r => exact uploadFixture_takes hidle disk f r path line _
    | floor f | corridor f c | lift f c l => exact hrefused noFixtureHere
  | unfixture =>
    cases node with
    | restroom f r => exact setFixture_takes hidle f r none line _
    | floor f | corridor f c | lift f c l => exact hrefused noFixtureHere

theorem runLocal_takes (hidle : a.waitingSince = none) (line : String) (command : LocalCommand)
    (disk : Disk) :
    Takes clock a key (({ a with line } : App σ).runLocal command clock disk) := by
  cases command with
  | clear => exact .cleared line _ hidle
  | onRow command =>
    simp only [runLocal]
    split
    · exact .still a clock key a.panel line a.scroll _ a.quit
    · rename_i node _
      exact runOn_takes hidle line node command disk

/-! ### The panels -/

theorem submit_takes (a : App σ) (clock : Clock) (key : Key) (disk : Disk) :
    Takes clock a key (a.submit clock disk) := by
  unfold submit
  split
  · exact .refl a clock key
  · rename_i hwaiting
    have hidle : a.waitingSince = none := by simpa using hwaiting
    split
    · rename_i command _
      exact runLocal_takes hidle "" command disk
    · rename_i e _
      exact .still a clock key a.panel "" a.scroll (some e.message) a.quit
    · rcases a.session.start_eq a.line clock with hsame | ⟨hfree, htaken⟩
      · rw [hsame]
        exact .still a clock key a.panel "" a.scroll a.status a.quit
      · rw [htaken]
        exact .submitted a.line (clock.reading (a.session.taken a.line clock).stamps.last) hidle hfree

theorem inputKeyPress_takes (a : App σ) (key : Key) (clock : Clock) (disk : Disk) :
    Takes clock a key (a.inputKeyPress key clock disk) := by
  cases key with
  | char c => exact .still a clock (.char c) a.panel (a.line.push c) a.scroll a.status a.quit
  | backspace =>
    exact .still a clock .backspace a.panel (String.ofList a.line.toList.dropLast) a.scroll a.status
      a.quit
  | enter => exact submit_takes a clock .enter disk
  | _ => exact .refl a clock _

theorem activateSelected_takes (hpanel : a.panel = .buildings) (clock : Clock) :
    Takes clock a .enter a.activateSelected := by
  unfold activateSelected
  split
  · exact .refl a clock .enter
  · exact .activated hpanel ‹_›

theorem buildingsKeyPress_takes (hpanel : a.panel = .buildings) (key : Key) (clock : Clock) :
    Takes clock a key (a.buildingsKeyPress key) := by
  have hup : ∀ key, Takes clock a key { a with selectedBuilding := a.selectedBuilding - 1 } :=
    fun _ => .moved a.panel a.line a.scroll a.status a.quit (.inl (Nat.sub_le ..)) (.inl le_rfl)
  have hdown : ∀ key, Takes clock a key
      (if a.selectedBuilding < a.session.collection.buildings.length - 1 then
        { a with selectedBuilding := a.selectedBuilding + 1 } else a) := by
    intro key
    split
    · exact .moved a.panel a.line a.scroll a.status a.quit (.inr (by omega)) (.inl le_rfl)
    · exact .refl a clock key
  unfold buildingsKeyPress
  split
  · exact .still a clock _ a.panel a.line a.scroll a.status true
  · exact hup _
  · exact hup _
  · exact hdown _
  · exact hdown _
  · exact activateSelected_takes hpanel clock
  · exact .refl a clock key

/-- An edit is one of the things that a key can come to. -/
theorem edit_takes (hidle : a.waitingSince = none) (e : Edit) (clock : Clock) (key : Key) :
    Takes clock a key (a.edit e clock) :=
  .edited e a.line a.status hidle

theorem addComponent_takes (hidle : a.waitingSince = none) (kind : ComponentKind) (clock : Clock)
    (key : Key) : Takes clock a key (a.addComponent kind clock) := by
  unfold addComponent
  split
  · exact .refl a clock key
  · exact edit_takes hidle _ clock key

theorem addLift_takes (hidle : a.waitingSince = none) (clock : Clock) (key : Key) :
    Takes clock a key (a.addLift clock) := by
  unfold addLift
  split
  · exact edit_takes hidle _ clock key
  · exact edit_takes hidle _ clock key
  · exact .still a clock key a.panel a.line a.scroll _ a.quit

theorem deleteSelected_takes (hidle : a.waitingSince = none) (clock : Clock) (key : Key) :
    Takes clock a key (a.deleteSelected clock) := by
  unfold deleteSelected
  split
  · exact .refl a clock key
  all_goals exact edit_takes hidle _ clock key

theorem layoutKeyPress_takes (a : App σ) (key : Key) (clock : Clock) :
    Takes clock a key (a.layoutKeyPress key clock) := by
  unfold layoutKeyPress
  split
  · exact .refl a clock key
  · rename_i hwaiting
    have hidle : a.waitingSince = none := by simpa using hwaiting
    have hup : ∀ key, Takes clock a key { a with selectedRow := a.selectedRow - 1 } :=
      fun _ => .moved a.panel a.line a.scroll a.status a.quit (.inl le_rfl) (.inl (Nat.sub_le ..))
    have hdown : ∀ key, Takes clock a key
        (if wrap (a.selectedRow + 1) < a.rows.length then
          { a with selectedRow := wrap (a.selectedRow + 1) } else a) := by
      intro key
      split
      · rename_i hlt
        exact .moved a.panel a.line a.scroll a.status a.quit (.inl le_rfl) (.inr hlt)
      · exact .refl a clock key
    have hprefill : ∀ key line, Takes clock a key (a.prefill line) := fun key line =>
      .still a clock key .input line a.scroll a.status a.quit
    split
    · exact .still a clock _ a.panel a.line a.scroll a.status true
    · exact hup _
    · exact hup _
    · exact hdown _
    · exact hdown _
    · exact edit_takes hidle .addFloor clock _
    · exact addComponent_takes hidle .restroom clock _
    · exact addComponent_takes hidle .corridor clock _
    · exact addLift_takes hidle clock _
    · exact deleteSelected_takes hidle clock _
    · exact deleteSelected_takes hidle clock _
    · exact hprefill _ _
    · exact hprefill _ _
    · exact hprefill _ _
    · exact .refl a clock key

/-- **What every key comes to.** -/
theorem press_takes (a : App σ) (key : Key) (control : Bool) (clock : Clock) (disk : Disk) :
    Takes clock a key (a.press key control clock disk) := by
  unfold press
  split
  · exact .still a clock key a.panel a.line a.scroll a.status true
  · split
    · exact .still a clock _ a.panel a.line a.scroll a.status true
    · exact .still a clock _ a.panel.next a.line a.scroll a.status a.quit
    · exact .still a clock _ a.panel.previous a.line a.scroll a.status a.quit
    · exact .still a clock _ a.panel a.line _ a.status a.quit
    · exact .still a clock _ a.panel a.line _ a.status a.quit
    · split
      · exact buildingsKeyPress_takes ‹_› key clock
      · exact layoutKeyPress_takes a key clock
      · exact inputKeyPress_takes a key clock disk

end App

end Floorplan
