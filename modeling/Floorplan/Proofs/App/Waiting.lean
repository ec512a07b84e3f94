import Floorplan.Proofs.App.Run

set_option autoImplicit false

/-! # While a reply is awaited

While a reply is awaited, no line is submitted and the layout takes no keys, so that a request acts on
what was there when it was typed. The list of buildings has no such guard: the enter key still makes the
selected building active, and the request then acts on that one. `App.press_waiting_iff` says that this is
the only thing that a key can do to a session in the meantime. The transcript and the buildings themselves
stay as they are, whatever keys are pressed (`App.run_waiting`). -/

namespace Floorplan

/-- Switching to a building that is there makes it active. -/
theorem Session.switchTo_eq {σ : Type} [BlobStore σ] {s : Session σ} {b : Building}
    (hb : b ∈ s.collection.buildings) :
    s.switchTo b.id = s.commit { s.collection with activeId := some b.id } := by
  have hfound : (s.collection.findById? b.id).isSome := by
    rw [Collection.findById?, List.find?_isSome]
    exact ⟨b, hb, by simp⟩
  obtain ⟨x, hx⟩ := Option.isSome_iff_exists.1 hfound
  simp only [switchTo, hx]

namespace App

variable {σ : Type}

/-- The key makes a building active that is not: enter in the list of buildings. -/
def Activates (a : App σ) (key : Key) : Prop :=
  a.panel = .buildings ∧ key = .enter ∧
    ∃ b, a.session.collection.buildings[a.selectedBuilding]? = some b ∧
      a.session.collection.activeId ≠ some b.id

/-- What a session is left with while a reply is awaited: all but which building is active. -/
structure SameRequest (a a' : App σ) : Prop where
  messages_eq : a'.session.messages = a.session.messages
  buildings_eq : a'.session.collection.buildings = a.session.collection.buildings
  pending_eq : a'.session.pending = a.session.pending
  waitingSince_eq : a'.waitingSince = a.waitingSince

namespace SameRequest

variable {a a' a'' : App σ}

theorem refl (a : App σ) : SameRequest a a := ⟨rfl, rfl, rfl, rfl⟩

theorem trans (h : SameRequest a a') (h' : SameRequest a' a'') : SameRequest a a'' where
  messages_eq := h'.messages_eq.trans h.messages_eq
  buildings_eq := h'.buildings_eq.trans h.buildings_eq
  pending_eq := h'.pending_eq.trans h.pending_eq
  waitingSince_eq := h'.waitingSince_eq.trans h.waitingSince_eq

end SameRequest

variable [BlobStore σ] {a a' : App σ} {clock : Clock} {key : Key}

/-- While a reply is awaited, a key leaves the session alone or makes the selected building active. -/
theorem Takes.of_waiting (h : Takes clock a key a') (hwaiting : a.waitingSince.isSome) :
    a'.waitingSince = a.waitingSince ∧
      (a'.session = a.session ∨
        ∃ b, a.panel = .buildings ∧ key = .enter ∧
          a.session.collection.buildings[a.selectedBuilding]? = some b ∧
          a'.session = a.session.switchTo b.id) := by
  have hbusy : a.waitingSince ≠ none := by
    intro hidle
    rw [hidle] at hwaiting
    cases hwaiting
  cases h with
  | moved => exact ⟨rfl, .inl rfl⟩
  | activated hpanel hb => exact ⟨rfl, .inr ⟨_, hpanel, rfl, hb, rfl⟩⟩
  | edited _ _ _ hidle => exact absurd hidle hbusy
  | attached _ _ _ _ hidle => exact absurd hidle hbusy
  | cleared _ _ hidle => exact absurd hidle hbusy
  | submitted _ _ hidle => exact absurd hidle hbusy

theorem Takes.sameRequest (h : Takes clock a key a') (hwaiting : a.waitingSince.isSome) :
    SameRequest a a' := by
  obtain ⟨hsince, hsession | ⟨b, -, -, hb, hsession⟩⟩ := h.of_waiting hwaiting
  · exact ⟨by rw [hsession], by rw [hsession], by rw [hsession], hsince⟩
  · rw [Session.switchTo_eq (List.mem_of_getElem? hb)] at hsession
    exact ⟨by rw [hsession]; rfl, by rw [hsession]; rfl, by rw [hsession]; rfl, hsince⟩

/-- While a reply is awaited, **the transcript and the buildings stay as they are**, whatever keys are
    pressed, and so does the line that is being answered. -/
theorem run_waiting {events : List (Event × Clock)} (hkeys : ∀ x ∈ events, x.1 ≠ .pauseOver)
    (hwaiting : a.waitingSince.isSome) (h : a.run events = .ok a') : SameRequest a a' := by
  induction events generalizing a with
  | nil =>
    cases h
    exact .refl _
  | cons x events ih =>
    obtain ⟨hx, hrest⟩ := List.forall_mem_cons.1 hkeys
    obtain ⟨event, clock⟩ := x
    cases event with
    | pauseOver => exact absurd rfl hx
    | key key control disk =>
      have hfirst := (a.press_takes key control clock disk).sameRequest hwaiting
      have hstill : (a.press key control clock disk).waitingSince.isSome := by
        rw [hfirst.waitingSince_eq, hwaiting]
      exact hfirst.trans (ih hrest hstill h)

/-- Enter in the list of buildings makes the selected building active, awaited reply or not. -/
theorem collection_press_enter {b : Building} (hpanel : a.panel = .buildings)
    (hb : a.session.collection.buildings[a.selectedBuilding]? = some b) (control : Bool)
    (clock : Clock) (disk : Disk) :
    (a.press .enter control clock disk).session.collection
      = { a.session.collection with activeId := some b.id } := by
  have hpress : a.press .enter control clock disk = a.activateSelected := by
    simp [press, hpanel, buildingsKeyPress]
  rw [hpress]
  simp only [activateSelected, hb]
  rw [Session.switchTo_eq (List.mem_of_getElem? hb)]
  rfl

/-- **What a key changes while a reply is awaited**: nothing in the transcript, and nothing in the
    collection unless it makes another building active. -/
theorem press_waiting_iff (hwaiting : a.waitingSince.isSome) (key : Key) (control : Bool)
    (clock : Clock) (disk : Disk) :
    (a.press key control clock disk).session.messages = a.session.messages ∧
      ((a.press key control clock disk).session.collection = a.session.collection ↔
        ¬ a.Activates key) := by
  have htakes := a.press_takes key control clock disk
  refine ⟨(htakes.sameRequest hwaiting).messages_eq, ?_, ?_⟩
  · rintro hsame ⟨hpanel, rfl, b, hb, hother⟩
    rw [collection_press_enter hpanel hb] at hsame
    exact hother (congrArg Collection.activeId hsame).symm
  · intro hnot
    obtain ⟨-, hsession | ⟨b, hpanel, hkey, hb, hsession⟩⟩ := htakes.of_waiting hwaiting
    · rw [hsession]
    · have hactive : a.session.collection.activeId = some b.id := by
        by_contra hother
        exact hnot ⟨hpanel, hkey, b, hb, hother⟩
      rw [hsession, Session.switchTo_eq (List.mem_of_getElem? hb), ← hactive]
      rfl

/-- A session with two buildings, the second of which is active. -/
def estate : Session MemoryStore :=
  { store := {}
    collection :=
      ⟨[.generate "lodge" "Lodge" 1 0 0 0, .generate "tower" "Tower" 1 0 0 0], some "tower"⟩
    messages := [] }

/-- Floors are asked for, and then the list of buildings is gone to. -/
def asking : List Event := Event.sending "Add 2 floors" ++ [.pressing .tab]

theorem asking_press_enter :
    ∃ a, (ofSession estate).run (asking.map (·, .still 1000)) = .ok a ∧ a.waitingSince.isSome ∧
      (a.press .enter false (.still 1000) .empty).session.messages = a.session.messages ∧
      ((a.press .enter false (.still 1000) .empty).session.collection = a.session.collection ↔
        ¬ a.Activates .enter) := by
  obtain ⟨a, hrun, hwaiting⟩ := exists_of_run_isOk (p := fun a => a.waitingSince.isSome)
    (r := (ofSession estate).run (asking.map (·, .still 1000))) (by decide +kernel)
  exact ⟨a, hrun, hwaiting, press_waiting_iff hwaiting .enter false (.still 1000) .empty⟩

/-- Going up to the other building and pressing enter makes that one active, before the floors that were
    asked for have been added. -/
theorem strayed_changes :
    ¬ ∀ (s : Session MemoryStore) (events : List (Event × Clock)) (a : App MemoryStore),
      s.isProcessing = false → (ofSession s).run events = .ok a → a.waitingSince.isSome →
      ∀ (key : Key) (control : Bool) (clock : Clock) (disk : Disk),
        (a.press key control clock disk).session.collection = a.session.collection ∧
        (a.press key control clock disk).session.messages = a.session.messages := by
  intro hblocked
  obtain ⟨a, hrun, hfound⟩ := exists_of_run_isOk
    (p := fun a => a.waitingSince.isSome ∧
      (a.press .enter false (.still 1000) .empty).session.collection ≠ a.session.collection)
    (r := (ofSession estate).run ((asking ++ [Event.pressing .up]).map (·, .still 1000)))
    (by decide +kernel)
  obtain ⟨hwaiting, hchanged⟩ := of_decide_eq_true hfound
  exact hchanged (hblocked estate _ a rfl hrun hwaiting .enter false (.still 1000) .empty).1

end App

end Floorplan
