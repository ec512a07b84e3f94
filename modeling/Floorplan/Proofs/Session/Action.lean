import Floorplan.Proofs.Intent.Words
import Floorplan.Proofs.Session.Line

set_option autoImplicit false

/-! # Courses of actions

A building can be edited by any function, not only by the edits that the layout keys make. An action is
an operation or such a revision, and a course of actions is recorded with the answers that were given.

What an action comes to is said by `Session.Outturn`, in one case for each way in which a session
changes: nothing but stamps, a line that is taken up, an answer, an attachment, a building that is put in
the place of another, or a new beginning. What holds after every course of actions is proved by cases on
it (`Session.enact_outturn`, `Session.actAll_induction`). -/

namespace Floorplan

variable {σ : Type} [BlobStore σ]

/-! ## Actions -/

/-- An edit of a building by any function, which may draw stamps and takes none back. -/
structure Revision where
  change : Building → Stamps → Building × Stamps
  last_le : ∀ b s, s.last ≤ (change b s).2.last

/-- The revision that draws no stamps. -/
def Revision.ofEdit (edit : Building → Building) : Revision :=
  ⟨fun b s => (edit b, s), fun _ s => Nat.le_refl s.last⟩

/-- What can be done with a session, its active building being edited by any function. -/
inductive Action where
  | operation (op : Operation)
  | revise (r : Revision)

namespace Action

/-- Does the action begin the transcript anew? -/
def clears : Action → Bool
  | operation .clear => true
  | _ => false

/-- What is said to confirm that a building has been replaced. -/
def confirmation : Sender × String := (.assistant, Reply.configurationUpdated.message)

/-- The messages that an action adds to the transcript, as its answer tells. -/
def entries : Action → Answer → List (Sender × String)
  | operation (.start text), .flag true => [(.user, text)]
  | operation .finish, .reply (some reply) => [(.assistant, reply)]
  | operation (.send text), .reply (some reply) => [(.user, text), (.assistant, reply)]
  | operation (.edit _), .flag true => [confirmation]
  | operation (.update _), _ => [confirmation]
  | revise _, .flag true => [confirmation]
  | _, _ => []

end Action

namespace Session

/-- Carries out an action. -/
def enact (s : Session σ) (a : Action) (clock : Clock) : Except Fault (Answer × Session σ) :=
  match a with
  | .operation op => s.perform op clock
  | .revise r => .ok ((s.editStructure r.change clock).map .flag id)

/-- One step of a course of actions. -/
def act (s : Session σ) (a : Action) (clock : Clock) : Except Stop (Answer × Session σ) :=
  match s.enact a clock with
  | .error f => .error (.fault f)
  | .ok (answer, s) => if s.collection.Fits then .ok (answer, s) else .error .tooManyFloors

/-- The actions of a course with their answers, and the session after it. -/
def actAll (s : Session σ) :
    List (Action × Clock) → Except Stop (List (Action × Answer) × Session σ)
  | [] => .ok ([], s)
  | (a, clock) :: steps =>
    match s.act a clock with
    | .error stop => .error stop
    | .ok (answer, s) => (s.actAll steps).map (·.map ((a, answer) :: ·) id)

/-- The session after a line has been taken up. -/
def taken (s : Session σ) (text : String) (clock : Clock) : Session σ :=
  { s.push .user text clock with pending := some text }

/-- The session after a line has been answered. -/
def answered (s : Session σ) (o : Outcome) (stamps : Stamps) (clock : Clock) : Session σ :=
  let idle := { s with pending := none, stamps }
  (o.collection.elim idle idle.commit).push .assistant o.reply.message clock

end Session

/-! ## What an action comes to -/

/-- The buildings have the numbers of some that were there. -/
def Collection.NumberedAs (c c' : Collection) : Prop :=
  ∀ b' ∈ c'.buildings, ∃ b ∈ c.buildings,
    b'.totalFloors = b.totalFloors ∧ b'.floorNumbers = b.floorNumbers

/-- The building that an action puts in the place of another, and the stamps then: the one that was
    given, or what the active building was edited into. -/
inductive Action.Yields (clock : Clock) (c : Collection) (stamps : Stamps) :
    Action → Answer → Building → Stamps → Prop
  | given (b : Building) : Yields clock c stamps (.operation (.update b)) .done b stamps
  | edited {old : Building} (hold : c.active? = some old) (e : Edit) :
      Yields clock c stamps (.operation (.edit e)) (.flag true)
        (e.applyTo old clock stamps).1 (e.applyTo old clock stamps).2
  | revised {old : Building} (hold : c.active? = some old) (r : Revision) :
      Yields clock c stamps (.revise r) (.flag true) (r.change old stamps).1 (r.change old stamps).2

/-- What an action comes to. -/
inductive Session.Outturn (clock : Clock) (s : Session σ) : Action → Answer → Session σ → Prop
  /-- Nothing is changed, but stamps may have been drawn. -/
  | kept {a : Action} {answer : Answer} {stamps : Stamps} (hentries : a.entries answer = [])
      (hclears : a.clears = false) (hle : s.stamps.last ≤ stamps.last) :
      Outturn clock s a answer { s with stamps }
  /-- A line is taken up. -/
  | taken {text : String} (hidle : s.pending = none) :
      Outturn clock s (.operation (.start text)) (.flag true) (s.taken text clock)
  /-- The line that was taken up is answered. -/
  | answered {text : String} {o : Outcome} {stamps : Stamps} (hpending : s.pending = some text)
      (hdispatch : dispatch s.collection text clock s.stamps = .ok (o, stamps)) :
      Outturn clock s (.operation .finish) (.reply (some o.reply.message))
        (s.answered o stamps clock)
  /-- A line is taken up and answered. -/
  | sent {text : String} {o : Outcome} {stamps : Stamps} (hidle : s.pending = none)
      (hdispatch : dispatch s.collection text clock (s.taken text clock).stamps = .ok (o, stamps)) :
      Outturn clock s (.operation (.send text)) (.reply (some o.reply.message))
        ((s.taken text clock).answered o stamps clock)
  /-- Something is attached or taken away, or another building is made active. -/
  | attached {a : Action} {c : Collection} (hentries : a.entries .done = [])
      (hclears : a.clears = false) (hnumbers : s.collection.NumberedAs c) :
      Outturn clock s a .done (s.commit c)
  /-- A building is put in the place of another. -/
  | replaced {a : Action} {answer : Answer} {b : Building} {stamps : Stamps}
      (hyields : a.Yields clock s.collection s.stamps answer b stamps) :
      Outturn clock s a answer (updateBuilding { s with stamps } b clock)
  /-- Everything begins anew. -/
  | cleared : Outturn clock s (.operation .clear) .done (s.clear clock)

variable {clock : Clock} {s s' : Session σ} {a : Action} {answer : Answer}

theorem Action.Yields.last_le {c : Collection} {stamps stamps' : Stamps} {b : Building}
    (h : a.Yields clock c stamps answer b stamps') : stamps.last ≤ stamps'.last := by
  cases h with
  | given => exact le_rfl
  | edited hold e => exact (e.evolves _ clock stamps).last_le
  | revised hold r => exact r.last_le _ stamps

theorem Action.Yields.entries_eq {c : Collection} {stamps stamps' : Stamps} {b : Building}
    (h : a.Yields clock c stamps answer b stamps') : a.entries answer = [confirmation] := by
  cases h <;> rfl

theorem Action.Yields.clears_eq {c : Collection} {stamps stamps' : Stamps} {b : Building}
    (h : a.Yields clock c stamps answer b stamps') : a.clears = false := by
  cases h <;> rfl

namespace Collection.NumberedAs

variable {c : Collection} {b b' : Building}

theorem refl (c : Collection) : c.NumberedAs c := fun b hb => ⟨b, hb, rfl, rfl⟩

theorem withBuilding (hb : b ∈ c.buildings) (htotal : b'.totalFloors = b.totalFloors)
    (hnumbers : b'.floorNumbers = b.floorNumbers) : c.NumberedAs (c.withBuilding b') := by
  intro x hx
  obtain ⟨old, hold, rfl⟩ := List.mem_map.1 hx
  split
  · exact ⟨b, hb, htotal, hnumbers⟩
  · exact ⟨old, hold, rfl, rfl⟩

end Collection.NumberedAs

namespace Session

/-! ## Inversion -/

/-- Taking up a line comes to nothing, or the line is taken up. -/
theorem start_eq (s : Session σ) (text : String) (clock : Clock) :
    s.start text clock = (false, s) ∨
      s.pending = none ∧ s.start text clock = (true, s.taken text clock) := by
  unfold start
  split
  · exact Or.inl rfl
  · rename_i hfree
    have hidle : s.pending = none := by
      rw [Bool.or_eq_true, not_or] at hfree
      simpa [isProcessing] using hfree.1
    exact Or.inr ⟨hidle, rfl⟩

/-- The line that was taken up is answered, unless it has no outcome. -/
theorem finish_eq {text : String} (hpending : s.pending = some text) {reply : Option String}
    (h : s.finish clock = .ok (reply, s')) :
    ∃ o stamps, dispatch s.collection text clock s.stamps = .ok (o, stamps) ∧
      reply = some o.reply.message ∧ s' = s.answered o stamps clock := by
  simp only [finish, hpending] at h
  cases hdispatch : dispatch s.collection text clock s.stamps with
  | error fault =>
    rw [hdispatch] at h
    cases h
  | ok result =>
    obtain ⟨⟨change, said⟩, stamps⟩ := result
    rw [hdispatch] at h
    cases h
    cases change <;> exact ⟨_, stamps, rfl, rfl, rfl⟩

theorem collection_answered (s : Session σ) (o : Outcome) (stamps : Stamps) (clock : Clock) :
    (s.answered o stamps clock).collection = o.collection.getD s.collection := by
  unfold answered
  cases o.collection <;> rfl

theorem last_le_answered (s : Session σ) (o : Outcome) (stamps : Stamps) (clock : Clock) :
    stamps.last ≤ (s.answered o stamps clock).stamps.last := by
  unfold answered
  cases o.collection <;> exact stamps.last_le_next clock

theorem outturn_start (s : Session σ) (text : String) (clock : Clock) :
    Outturn clock s (.operation (.start text)) (.flag (s.start text clock).1)
      (s.start text clock).2 := by
  rcases s.start_eq text clock with hsame | ⟨hidle, htaken⟩
  · rw [hsame]
    exact .kept rfl rfl le_rfl
  · rw [htaken]
    exact .taken hidle

theorem outturn_finish {reply : Option String} (h : s.finish clock = .ok (reply, s')) :
    Outturn clock s (.operation .finish) (.reply reply) s' := by
  cases hpending : s.pending with
  | none =>
    simp only [finish, hpending] at h
    cases h
    exact .kept rfl rfl le_rfl
  | some text =>
    obtain ⟨o, stamps, hdispatch, rfl, rfl⟩ := finish_eq hpending h
    exact .answered hpending hdispatch

theorem outturn_send {text : String} {reply : Option String}
    (h : s.send text clock = .ok (reply, s')) :
    Outturn clock s (.operation (.send text)) (.reply reply) s' := by
  rcases s.start_eq text clock with hsame | ⟨hidle, htaken⟩
  · simp only [send, hsame] at h
    cases h
    exact .kept rfl rfl le_rfl
  · simp only [send, htaken] at h
    obtain ⟨o, stamps, hdispatch, rfl, rfl⟩ := finish_eq rfl h
    exact .sent hidle hdispatch

/-- What an edit of the active building that leaves numbers alone comes to. -/
theorem outturn_editActive {edit : Building → Building} (hentries : a.entries .done = [])
    (hclears : a.clears = false)
    (hedit : ∀ b, (edit b).totalFloors = b.totalFloors ∧ (edit b).floorNumbers = b.floorNumbers) :
    Outturn clock s a .done (s.editActive edit) := by
  unfold editActive
  split
  · exact .kept hentries hclears le_rfl
  · rename_i b hb
    have hmem := Collection.mem_of_active? hb
    exact .attached hentries hclears (.withBuilding hmem (hedit b).1 (hedit b).2)

theorem outturn_setMap {kind : ComponentKind} {floor component : String} {map : Option String}
    (hentries : a.entries .done = []) (hclears : a.clears = false) :
    Outturn clock s a .done (s.setMap kind floor component map) := by
  refine outturn_editActive hentries hclears fun b => ⟨rfl, b.floorNumbers_mapFloor floor fun f => ?_⟩
  cases kind <;> rfl

theorem outturn_setFixture {floor restroom : String} {fixture : Option String}
    (hentries : a.entries .done = []) (hclears : a.clears = false) :
    Outturn clock s a .done (s.setFixture floor restroom fixture) :=
  outturn_editActive hentries hclears fun b => ⟨rfl, b.floorNumbers_mapFloor floor fun _ => rfl⟩

theorem outturn_switchTo (id : String) :
    Outturn clock s (.operation (.switchTo id)) .done (s.switchTo id) := by
  unfold switchTo
  split
  · exact .kept rfl rfl le_rfl
  · exact .attached rfl rfl (.refl s.collection)

/-- Editing the active building puts another one in its place, or nothing but stamps changes. -/
theorem outturn_editStructure {edit : Building → Stamps → Building × Stamps}
    (hentries : a.entries (.flag false) = []) (hclears : a.clears = false)
    (hle : ∀ b stamps, stamps.last ≤ (edit b stamps).2.last)
    (hyields : ∀ b, s.collection.active? = some b →
      a.Yields clock s.collection s.stamps (.flag true) (edit b s.stamps).1 (edit b s.stamps).2) :
    Outturn clock s a (.flag (s.editStructure edit clock).1) (s.editStructure edit clock).2 := by
  cases hb : s.collection.active? with
  | none =>
    simp only [editStructure, hb]
    exact .kept hentries hclears le_rfl
  | some b =>
    simp only [editStructure, hb]
    split
    · exact .kept hentries hclears (hle b s.stamps)
    · exact .replaced (hyields b hb)

/-- **What every action comes to.** -/
theorem enact_outturn (h : s.enact a clock = .ok (answer, s')) : Outturn clock s a answer s' := by
  cases a with
  | revise r =>
    cases h
    exact outturn_editStructure rfl rfl r.last_le fun b hb => .revised hb r
  | operation op =>
    cases op with
    | start text =>
      cases h
      exact s.outturn_start text clock
    | finish =>
      obtain ⟨⟨reply, next⟩, hfinish, heq⟩ := exists_of_map_eq_ok h
      cases heq
      exact outturn_finish hfinish
    | send text =>
      obtain ⟨⟨reply, next⟩, hsend, heq⟩ := exists_of_map_eq_ok h
      cases heq
      exact outturn_send hsend
    | setMap kind floor component map =>
      cases h
      exact outturn_setMap rfl rfl
    | setFixture floor restroom fixture =>
      cases h
      exact outturn_setFixture rfl rfl
    | uploadMap disk kind floor component path =>
      cases h
      unfold uploadMap
      split
      · exact outturn_setMap rfl rfl
      · exact .kept rfl rfl le_rfl
    | uploadFixture disk floor restroom path =>
      cases h
      unfold uploadFixture
      split
      · exact outturn_setFixture rfl rfl
      · exact .kept rfl rfl le_rfl
    | edit e =>
      cases h
      exact outturn_editStructure rfl rfl (fun b stamps => (e.evolves b clock stamps).last_le)
        fun b hb => .edited hb e
    | update b =>
      cases h
      exact .replaced (.given b)
    | switchTo id =>
      cases h
      exact outturn_switchTo id
    | clear =>
      cases h
      exact .cleared

theorem act_outturn (h : s.act a clock = .ok (answer, s')) :
    Outturn clock s a answer s' ∧ s'.collection.Fits := by
  unfold act at h
  split at h
  · cases h
  · split at h
    · cases h
      exact ⟨enact_outturn ‹_›, ‹_›⟩
    · cases h

/-! ## Courses -/

omit [BlobStore σ] in
/-- A course that is found to end as it should has an end. -/
theorem exists_of_isOk {α : Type} {r : Except Stop (α × Session σ)} {p : α → Session σ → Bool}
    (h : (match r with | .ok (events, s) => p events s | .error _ => false) = true) :
    ∃ events s, r = .ok (events, s) ∧ p events s := by
  rcases r with stop | ⟨events, s⟩
  · cases h
  · exact ⟨events, s, rfl, h⟩

theorem actAll_cons {clock : Clock} {steps : List (Action × Clock)}
    {events : List (Action × Answer)} (h : s.actAll ((a, clock) :: steps) = .ok (events, s')) :
    ∃ answer next rest, s.act a clock = .ok (answer, next) ∧ next.actAll steps = .ok (rest, s') ∧
      events = (a, answer) :: rest := by
  simp only [actAll] at h
  split at h
  · cases h
  · rename_i answer next hnext
    obtain ⟨⟨rest, last⟩, hrest, heq⟩ := exists_of_map_eq_ok h
    cases heq
    exact ⟨answer, next, rest, hnext, hrest, rfl⟩

/-- What holds of the actions so far and the session, and is kept by each action and what it comes to,
    holds in the end. -/
theorem actAll_induction {p : List (Action × Answer) → Session σ → Prop}
    {steps : List (Action × Clock)} {events : List (Action × Answer)}
    (hstep : ∀ x ∈ steps, ∀ past s answer s', p past s → Outturn x.2 s x.1 answer s' →
      s'.collection.Fits → p (past ++ [(x.1, answer)]) s')
    (hstart : p [] s) (h : s.actAll steps = .ok (events, s')) : p events s' := by
  have hfrom : ∀ past, p past s → p (past ++ events) s' := by
    clear hstart
    induction steps generalizing s events with
    | nil =>
      cases h
      intro past hpast
      simpa using hpast
    | cons x steps ih =>
      obtain ⟨hx, hsteps⟩ := List.forall_mem_cons.1 hstep
      obtain ⟨answer, next, rest, hnext, hrest, rfl⟩ := actAll_cons h
      obtain ⟨houtturn, hfits⟩ := act_outturn hnext
      intro past hpast
      have hcourse := ih hsteps hrest _ (hx past s answer next hpast houtturn hfits)
      rwa [List.append_assoc] at hcourse
  exact hfrom [] hstart

end Session

end Floorplan
