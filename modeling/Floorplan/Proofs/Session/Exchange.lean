import Floorplan.Proofs.Intent.Regular
import Floorplan.Proofs.Session.Action

set_option autoImplicit false

/-! # Exchanges

A run in which only lines of text are put is a list of exchanges: the collection before, what was
replied, and the collection after. What a line does to a session is said by `Session.Talks`: nothing, or
what carrying out a text does. That the collection is regular is kept by every line whatever the clock
does, and so every line has an outcome (`Session.run_regular`). -/

namespace Floorplan

variable {σ : Type} [BlobStore σ]

/-- What a step does that puts a line of text or answers it. -/
structure Exchange where
  before : Collection
  /-- The reply, if a line is answered. -/
  reply : Option Reply
  after : Collection

namespace Session

/-- The reply to the pending line, if there is one. -/
def pendingReply? (s : Session σ) (clock : Clock) : Option Reply :=
  match s.pending with
  | none => none
  | some text =>
    match dispatch s.collection text clock s.stamps with
    | .ok (outcome, _) => some outcome.reply
    | .error _ => none

/-- The reply that is given when an operation is carried out. -/
def reply? (s : Session σ) (op : Operation) (clock : Clock) : Option Reply :=
  match op with
  | .finish => s.pendingReply? clock
  | .send text =>
    match s.start text clock with
    | (true, busy) => busy.pendingReply? clock
    | (false, _) => none
  | _ => none

/-- The exchanges of a run. They end early if the run does. -/
def exchanges (s : Session σ) : List (Operation × Clock) → List Exchange
  | [] => []
  | (op, clock) :: steps =>
    match s.step op clock with
    | .error _ => []
    | .ok (_, next) =>
      ⟨s.collection, s.reply? op clock, next.collection⟩ :: next.exchanges steps

/-! ## What a line does to a session -/

/-- Nothing is done to the collection, or what carrying out a text leads to. -/
inductive Talks (clock : Clock) (s : Session σ) : Option Reply → Session σ → Prop
  | silent {s' : Session σ} (hc : s'.collection = s.collection)
      (hle : s.stamps.last ≤ s'.stamps.last) : Talks clock s none s'
  | answered {s' : Session σ} {text : String} {o : Outcome} {drawn drawn' : Stamps}
      (hbefore : s.stamps.last ≤ drawn.last)
      (hdispatch : dispatch s.collection text clock drawn = .ok (o, drawn'))
      (hafter : drawn'.last ≤ s'.stamps.last) (hc : s'.collection = o.collection.getD s.collection) :
      Talks clock s (some o.reply) s'

variable {clock : Clock} {s s' : Session σ}

theorem talks_start (s : Session σ) (text : String) (clock : Clock) :
    Talks clock s none (s.start text clock).2 := by
  refine .silent (s.collection_start text clock) ?_
  rcases s.start_eq text clock with hsame | ⟨-, htaken⟩
  · rw [hsame]
  · rw [htaken]
    exact s.stamps.last_le_next clock

theorem talks_finish {reply : Option String} (h : s.finish clock = .ok (reply, s')) :
    Talks clock s (s.pendingReply? clock) s' := by
  cases hpending : s.pending with
  | none =>
    simp only [finish, pendingReply?, hpending] at h ⊢
    cases h
    exact .silent rfl le_rfl
  | some text =>
    obtain ⟨o, stamps, hdispatch, rfl, rfl⟩ := finish_eq hpending h
    simp only [pendingReply?, hpending, hdispatch]
    exact .answered le_rfl hdispatch (s.last_le_answered o stamps clock)
      (s.collection_answered o stamps clock)

theorem talks_send {text : String} {reply : Option String} (h : s.send text clock = .ok (reply, s')) :
    Talks clock s (s.reply? (.send text) clock) s' := by
  rcases s.start_eq text clock with hsame | ⟨-, htaken⟩
  · simp only [send, reply?, hsame] at h ⊢
    cases h
    exact .silent rfl le_rfl
  · simp only [send, reply?, htaken] at h ⊢
    have hle : s.stamps.last ≤ (s.taken text clock).stamps.last := s.stamps.last_le_next clock
    have hfinish := talks_finish h
    generalize (s.taken text clock).pendingReply? clock = said at hfinish
    cases hfinish with
    | silent hc hle' => exact .silent hc (hle.trans hle')
    | answered hbefore hdispatch hafter hc => exact .answered (hle.trans hbefore) hdispatch hafter hc

/-- **What a line of text does to a session**, whether it is taken up, answered or both. -/
theorem talks_step {op : Operation} {answer : Answer} (hchat : op.isChat)
    (h : s.step op clock = .ok (answer, s')) :
    Talks clock s (s.reply? op clock) s' ∧ s'.collection.Fits := by
  obtain ⟨hperform, hfits⟩ := perform_of_step h
  refine ⟨?_, hfits⟩
  cases op with
  | start text =>
    cases hperform
    exact s.talks_start text clock
  | finish =>
    obtain ⟨⟨reply, next⟩, hfinish, heq⟩ := exists_of_map_eq_ok hperform
    cases heq
    exact talks_finish hfinish
  | send text =>
    obtain ⟨⟨reply, next⟩, hsend, heq⟩ := exists_of_map_eq_ok hperform
    cases heq
    exact talks_send hsend
  | _ => cases hchat

/-! ## Regular sessions -/

/-- The collection is regular with the stamps that have been drawn. -/
def Regular (s : Session σ) : Prop := s.collection.Regular s.stamps.last

theorem regular_restore {store : σ} (hstore : BlobStore.get store buildingsKey = .ok none)
    (clock : Clock) : (restore store clock).Regular := by
  unfold Regular
  rw [collection_restore hstore]
  exact .empty _

omit [BlobStore σ] in
theorem Talks.regular {reply : Option Reply} (h : Talks clock s reply s') (hs : s.Regular)
    (hfits : s'.collection.Fits) : s'.Regular := by
  cases h with
  | silent hc hle =>
    unfold Regular
    rw [hc]
    exact hs.mono hle
  | @answered _ text _ _ _ hbefore hdispatch hafter hc =>
    unfold Regular
    rw [hc] at hfits ⊢
    obtain ⟨o, stamps, houtcome, hregular⟩ := dispatch_regular (hs.mono hbefore) text clock
    cases hdispatch.symm.trans houtcome
    exact (hregular hfits).mono hafter

theorem Regular.push (h : s.Regular) (sender : Sender) (content : String) (clock : Clock) :
    (s.push sender content clock).Regular :=
  Collection.Regular.mono (s.stamps.last_le_next clock) h

/-- Answering a line has an outcome. -/
theorem Regular.finish (h : s.Regular) (clock : Clock) : ∃ r, s.finish clock = .ok r := by
  unfold Session.finish
  split
  · exact ⟨_, rfl⟩
  · rename_i text _
    obtain ⟨o, stamps, hdispatch, -⟩ := dispatch_regular h text clock
    rw [hdispatch]
    exact ⟨_, rfl⟩

theorem Regular.perform (h : s.Regular) {op : Operation} (hchat : op.isChat) (clock : Clock) :
    ∃ r, s.perform op clock = .ok r := by
  cases op with
  | start text => exact ⟨_, rfl⟩
  | finish =>
    obtain ⟨r, hr⟩ := h.finish clock
    exact ⟨_, congrArg (Except.map _) hr⟩
  | send text =>
    rcases s.start_eq text clock with hsame | ⟨-, htaken⟩
    · exact ⟨_, by simp only [Session.perform, send, hsame]; rfl⟩
    · have hbusy : (s.taken text clock).Regular := h.push .user text clock
      obtain ⟨r, hr⟩ := hbusy.finish clock
      exact ⟨_, by simp only [Session.perform, send, htaken, hr]; rfl⟩
  | _ => cases hchat

/-- **A line of text has an outcome**, and the session stays regular. -/
theorem Regular.step (h : s.Regular) {op : Operation} (hchat : op.isChat) (clock : Clock) :
    Ends Regular (· = .tooManyFloors) (s.step op clock) := by
  obtain ⟨⟨answer, s'⟩, hperform⟩ := h.perform hchat clock
  by_cases hfits : s'.collection.Fits
  · have hstep : s.step op clock = .ok (answer, s') := by
      simp only [Session.step, hperform, if_pos hfits]
    rw [hstep]
    exact (talks_step hchat hstep).1.regular h hfits
  · simp only [Session.step, hperform, if_neg hfits]
    rfl

theorem Regular.next (h : s.Regular) {op : Operation} (hchat : op.isChat) (clock : Clock)
    (answer : Answer) (s' : Session σ) (hstep : s.step op clock = .ok (answer, s')) : s'.Regular := by
  obtain ⟨htalks, hfits⟩ := talks_step hchat hstep
  exact htalks.regular h hfits

/-- Whatever lines are put to a session that started on an empty store, and whatever the clock does,
    the session stays regular. -/
theorem run_regular {store : σ} (hstore : BlobStore.get store buildingsKey = .ok none)
    (opening : Clock) {steps : List (Operation × Clock)} (hchat : ∀ x ∈ steps, x.1.isChat) :
    Ends Regular (· = .tooManyFloors) ((restore store opening).run steps) :=
  run_ends (fun x hx _ hs => hs.step (hchat x hx) x.2) (regular_restore hstore opening)

/-! ## What holds of exchanges -/

/-- What is so whenever a step is made from a session with an invariant is so of every exchange. -/
theorem exchanges_forall {inv : Session σ → Prop} {p : Exchange → Prop}
    {steps : List (Operation × Clock)}
    (hstep : ∀ x ∈ steps, ∀ s answer s', inv s → s.step x.1 x.2 = .ok (answer, s') →
      inv s' ∧ p ⟨s.collection, s.reply? x.1 x.2, s'.collection⟩)
    (hstart : inv s) : ∀ e ∈ s.exchanges steps, p e := by
  induction steps generalizing s with
  | nil => simp [exchanges]
  | cons x steps ih =>
    obtain ⟨hx, hsteps⟩ := List.forall_mem_cons.1 hstep
    simp only [exchanges]
    split
    · simp
    · rename_i answer next hnext
      obtain ⟨hinv, hp⟩ := hx s answer next hstart hnext
      exact List.forall_mem_cons.2 ⟨hp, ih hsteps hinv⟩

/-- If each step keeps a property of the collection exactly when another one holds of the exchange,
    then either holds of all exchanges or neither does. -/
theorem exchanges_iff {inv : Session σ → Prop} {p : Collection → Prop} {q : Exchange → Prop}
    {steps : List (Operation × Clock)}
    (hstep : ∀ x ∈ steps, ∀ s answer s', inv s → s.step x.1 x.2 = .ok (answer, s') →
      inv s' ∧ (p s.collection →
        (p s'.collection ↔ q ⟨s.collection, s.reply? x.1 x.2, s'.collection⟩)))
    (hstart : inv s) (hp : p s.collection) :
    (∀ e ∈ s.exchanges steps, p e.after) ↔ ∀ e ∈ s.exchanges steps, q e := by
  induction steps generalizing s with
  | nil => simp [exchanges]
  | cons x steps ih =>
    obtain ⟨hx, hsteps⟩ := List.forall_mem_cons.1 hstep
    simp only [exchanges]
    split
    · simp
    · rename_i answer next hnext
      obtain ⟨hinv, hsame⟩ := hx s answer next hstart hnext
      simp only [List.forall_mem_cons]
      -- Once the property is lost it does not matter what follows.
      by_cases hpnext : p next.collection
      · rw [ih hsteps hinv hpnext]
        exact and_congr_left' (hsame hp)
      · exact iff_of_false (fun hall => hpnext hall.1) fun hall => hpnext ((hsame hp).2 hall.1)

end Session

end Floorplan
