import Floorplan.Proofs.Intent.SamePlan
import Floorplan.Proofs.Session.Exchange

set_option autoImplicit false

/-! # Conversations do not depend on the clock

Two sessions that start on empty stores are put the same lines of text, each under clocks of its own.
Their collections have different ids, but the same plan, and the answers are the same: a step keeps it
that the plans and the pending lines are the same (`Session.SamePlan.perform`), because the sessions stay
regular and so their building ids stay distinct. The main result is `Session.run_timeless`. -/

namespace Floorplan

variable {σ τ : Type} [BlobStore σ] [BlobStore τ]

namespace Session

/-- The sessions have collections of the same plan, and the same line is being answered. -/
structure SamePlan (s : Session σ) (t : Session τ) : Prop where
  plan_eq : s.collection.plan = t.collection.plan
  pending_eq : s.pending = t.pending

/-- The outcomes are sessions of the same plan after the same answers, or early ends for one reason. -/
inductive Concur {α ε : Type} : Except ε (α × Session σ) → Except ε (α × Session τ) → Prop
  | ended {s : Session σ} {t : Session τ} (a : α) (h : SamePlan s t) : Concur (.ok (a, s)) (.ok (a, t))
  | stopped (reason : ε) : Concur (.error reason) (.error reason)

omit [BlobStore σ] [BlobStore τ] in
theorem Concur.map {α β ε : Type} {r : Except ε (α × Session σ)} {r' : Except ε (α × Session τ)}
    (h : Concur r r') (f : α → β) : Concur (r.map (·.map f id)) (r'.map (·.map f id)) := by
  cases h with
  | ended a h => exact .ended (f a) h
  | stopped reason => exact .stopped reason

variable {s : Session σ} {t : Session τ} {clock clock' : Clock}

omit [BlobStore σ] in
/-- The next building to be made has an id that no building has. -/
theorem Regular.fresh (h : s.Regular) (clock : Clock) :
    "building-" ++ toString (s.stamps.next clock).1 ∉ s.collection.buildings.map (·.id) :=
  fun hmem => not_numbered_of_lt (s.stamps.last_lt_next clock) (h.buildingIds.shaped _ hmem)

namespace SamePlan

omit [BlobStore σ] [BlobStore τ] in
theorem collections (h : SamePlan s t) (hs : s.Regular) (ht : t.Regular) :
    Intent.SamePlan s.collection t.collection :=
  ⟨h.plan_eq, hs.buildingIds.nodup, ht.buildingIds.nodup⟩

omit [BlobStore σ] [BlobStore τ] in
theorem fits_iff (h : SamePlan s t) : s.collection.Fits ↔ t.collection.Fits := by
  have hfits : ∀ c : Collection, c.Fits ↔ ∀ b ∈ c.plan.buildings, b.floors.length < wordLimit := by
    simp [Collection.Fits, Collection.plan]
  rw [hfits, hfits, h.plan_eq]

theorem taken (h : SamePlan s t) (text : String) (clock clock' : Clock) :
    SamePlan (s.taken text clock) (t.taken text clock') := ⟨h.plan_eq, rfl⟩

theorem start (h : SamePlan s t) (text : String) (clock clock' : Clock) :
    (s.start text clock).1 = (t.start text clock').1 ∧
      SamePlan (s.start text clock).2 (t.start text clock').2 := by
  have hprocessing : s.isProcessing = t.isProcessing := congrArg Option.isSome h.pending_eq
  cases hrefused : t.isProcessing || Text.allBlank text with
  | true =>
    simp only [Session.start, hprocessing, hrefused, if_true]
    exact ⟨trivial, h⟩
  | false =>
    simp only [Session.start, hprocessing, hrefused, Bool.false_eq_true, if_false]
    exact ⟨trivial, h.plan_eq, rfl⟩

theorem answered {o o' : Outcome} {stamps stamps' : Stamps}
    (h : Intent.shows s.collection o = Intent.shows t.collection o') :
    SamePlan (s.answered o stamps clock) (t.answered o' stamps' clock') := by
  refine ⟨?_, ?_⟩
  · rw [collection_answered, collection_answered]
    exact congrArg Prod.fst h
  · unfold Session.answered
    cases o.collection <;> cases o'.collection <;> rfl

theorem finish (h : SamePlan s t) (hs : s.Regular) (ht : t.Regular) (clock clock' : Clock) :
    Concur (s.finish clock) (t.finish clock') := by
  cases hpending : s.pending with
  | none =>
    simp only [Session.finish, hpending, h.pending_eq ▸ hpending]
    exact .ended none h
  | some text =>
    have hpending' : t.pending = some text := h.pending_eq ▸ hpending
    obtain ⟨⟨reply, next⟩, hnext⟩ := hs.finish clock
    obtain ⟨⟨reply', next'⟩, hnext'⟩ := ht.finish clock'
    obtain ⟨o, stamps, hdispatch, rfl, rfl⟩ := finish_eq hpending hnext
    obtain ⟨o', stamps', hdispatch', rfl, rfl⟩ := finish_eq hpending' hnext'
    have hsame := dispatch_samePlan (h.collections hs ht) text (hs.fresh clock) (ht.fresh clock')
    rw [hdispatch, hdispatch'] at hsame
    have hshows : Intent.shows s.collection o = Intent.shows t.collection o' := Except.ok.inj hsame
    have hreply : o.reply = o'.reply := congrArg Prod.snd hshows
    rw [hnext, hnext', hreply]
    exact .ended _ (.answered hshows)

theorem send (h : SamePlan s t) (hs : s.Regular) (ht : t.Regular) (text : String)
    (clock clock' : Clock) : Concur (s.send text clock) (t.send text clock') := by
  simp only [Session.send]
  rcases s.start_eq text clock with hsame | ⟨hidle, htaken⟩
  · rcases t.start_eq text clock' with hsame' | ⟨hidle', htaken'⟩
    · rw [hsame, hsame']
      exact .ended none h
    · have hflag := (h.start text clock clock').1
      simp [hsame, htaken'] at hflag
  · rcases t.start_eq text clock' with hsame' | ⟨hidle', htaken'⟩
    · have hflag := (h.start text clock clock').1
      simp [hsame', htaken] at hflag
    · rw [htaken, htaken']
      have hbusy := h.taken text clock clock'
      exact hbusy.finish (hs.push .user text clock) (ht.push .user text clock') clock clock'

/-- A line of text comes to the same in sessions of the same plan. -/
theorem perform (h : SamePlan s t) (hs : s.Regular) (ht : t.Regular) {op : Operation}
    (hchat : op.isChat) (clock clock' : Clock) :
    Concur (s.perform op clock) (t.perform op clock') := by
  cases op with
  | start text =>
    obtain ⟨hflag, hnext⟩ := h.start text clock clock'
    simp only [Session.perform, Prod.map, hflag]
    exact .ended _ hnext
  | finish => exact (h.finish hs ht clock clock').map Answer.reply
  | send text => exact (h.send hs ht text clock clock').map Answer.reply
  | _ => cases hchat

theorem step (h : SamePlan s t) (hs : s.Regular) (ht : t.Regular) {op : Operation}
    (hchat : op.isChat) (clock clock' : Clock) : Concur (s.step op clock) (t.step op clock') := by
  have hperform := h.perform hs ht hchat clock clock'
  unfold Session.step
  generalize s.perform op clock = r at hperform ⊢
  generalize t.perform op clock' = r' at hperform ⊢
  cases hperform with
  | stopped fault => exact .stopped _
  | ended answer hnext =>
    simp only [hnext.fits_iff]
    split
    · exact .ended answer hnext
    · exact .stopped _

/-- **The same lines come to the same** in sessions of the same plan, whatever the clocks do. -/
theorem run (h : SamePlan s t) (hs : s.Regular) (ht : t.Regular)
    {steps steps' : List (Operation × Clock)} (hops : steps.map (·.1) = steps'.map (·.1))
    (hchat : ∀ x ∈ steps, x.1.isChat) : Concur (s.run steps) (t.run steps') := by
  induction steps generalizing s t steps' with
  | nil =>
    cases steps' with
    | nil => exact .ended [] h
    | cons x' steps' => cases hops
  | cons x steps ih =>
    cases steps' with
    | nil => cases hops
    | cons x' steps' =>
      obtain ⟨op, clock⟩ := x
      obtain ⟨op', clock'⟩ := x'
      obtain ⟨hop, hlater⟩ := List.cons.inj hops
      obtain ⟨hfirst, hrest⟩ := List.forall_mem_cons.1 hchat
      simp only at hop hfirst
      subst hop
      have hstep := h.step hs ht hfirst clock clock'
      have hnext := hs.next hfirst clock
      have hnext' := ht.next hfirst clock'
      simp only [Session.run]
      generalize s.step op clock = r at hstep hnext ⊢
      generalize t.step op clock' = r' at hstep hnext' ⊢
      cases hstep with
      | stopped stop => exact .stopped stop
      | ended answer h => exact (ih h (hnext _ _ rfl) (hnext' _ _ rfl) hlater hrest).map (answer :: ·)

end SamePlan

/-- What is to be seen of the end of a run: the answers that were given and the plan of the collection
    then, or why the run ended early. -/
def seen (r : Except Stop (List Answer × Session σ)) : Except Stop (List Answer × Plan) :=
  r.map fun x => (x.1, x.2.collection.plan)

omit [BlobStore σ] [BlobStore τ] in
theorem Concur.seen_eq {r : Except Stop (List Answer × Session σ)}
    {r' : Except Stop (List Answer × Session τ)} (h : Concur r r') : seen r = seen r' := by
  cases h with
  | ended a h => simp only [seen, Except.map, h.plan_eq]
  | stopped reason => rfl

/-- **What is said and built does not depend on the clock.** The same lines of text are put to two
    sessions that started on empty stores, under any two sequences of clocks. After each number of lines
    the answers have been the same and the collections have the same plan, with the active building at the
    same place; and no line is without an outcome. -/
theorem run_timeless {store : σ} {store' : τ} (hstore : BlobStore.get store buildingsKey = .ok none)
    (hstore' : BlobStore.get store' buildingsKey = .ok none) (opening opening' : Clock)
    {steps steps' : List (Operation × Clock)} (hops : steps.map (·.1) = steps'.map (·.1))
    (hchat : ∀ x ∈ steps, x.1.isChat) :
    (∀ n, seen ((restore store opening).run (steps.take n))
        = seen ((restore store' opening').run (steps'.take n))) ∧
      Ends (fun _ => True) (· = .tooManyFloors) ((restore store opening).run steps) := by
  have hempty : (restore store opening).collection = .empty := by
    simp only [restore, Saved.loadOr, hstore]
  have hempty' : (restore store' opening').collection = .empty := by
    simp only [restore, Saved.loadOr, hstore']
  have hsame : SamePlan (restore store opening) (restore store' opening') :=
    ⟨by rw [hempty, hempty'], rfl⟩
  refine ⟨fun n => ?_, (run_regular hstore opening hchat).imp fun _ _ => trivial⟩
  have hops' : (steps.take n).map (·.1) = (steps'.take n).map (·.1) := by
    rw [List.map_take, List.map_take, hops]
  have hregular := regular_restore hstore opening
  have hregular' := regular_restore hstore' opening'
  exact (hsame.run hregular hregular' hops' fun x hx => hchat x (List.mem_of_mem_take hx)).seen_eq

/-- Two buildings are made and the first one is extended, under a clock that stands still. -/
def hurried : List (Operation × Clock) :=
  [(.send "create Tower with 1 floor, 1 restroom", .still 0),
   (.send "create Annex with 0 floors, 0 restrooms", .still 0),
   (.send "switch to Tower", .still 0),
   (.send "add 1 floor", .still 0)]

/-- The same under a clock that goes back. -/
def backwards : List (Operation × Clock) :=
  [(.send "create Tower with 1 floor, 1 restroom", .still 9000),
   (.send "create Annex with 0 floors, 0 restrooms", .still 8000),
   (.send "switch to Tower", .still 7000),
   (.send "add 1 floor", .still 6000)]

set_option maxRecDepth 100000 in
theorem hurried_timeless :
    ((restore ({} : MemoryStore) (.still 0)).run hurried).isOk ∧
      seen ((restore ({} : MemoryStore) (.still 0)).run hurried)
        = seen ((restore ({} : MemoryStore) (.still 9000)).run backwards) := by
  have hchat : ∀ x ∈ hurried, x.1.isChat := by simp [hurried, Operation.isChat]
  have hops : hurried.map (·.1) = backwards.map (·.1) := rfl
  have hempty : BlobStore.get ({} : MemoryStore) buildingsKey = .ok none := rfl
  have htimeless := (run_timeless hempty hempty (.still 0) (.still 9000) hops hchat).1 4
  exact ⟨by decide +kernel, htimeless⟩

end Session

end Floorplan
