import Floorplan.Proofs.Session.Run
import Floorplan.Proofs.Intent.WellFormed
import Floorplan.Proofs.Store.Faithful

set_option autoImplicit false

/-! # What lines of text do to the buildings

A line of text leaves the ids of the buildings alone, or it adds one building behind the others and
makes it active. The reply says which: `Session.made?` reads the name of the new building off the reply,
and its id off the stamps. The store follows, as far as it can be loaded. -/

namespace Floorplan

variable {σ : Type} [BlobStore σ]

/-! ## What has been made -/

/-- A building that has been made: the name that the reply says, and the stamp that was drawn. -/
structure Made where
  name : String
  stamp : Nat
  deriving DecidableEq, Repr

/-- The id that goes with the stamp. -/
def Made.id (m : Made) : String := "building-" ++ toString m.stamp

/-- The name of the building that a reply says has been made. -/
def Reply.made? : Reply → Option String
  | created name .. => some name
  | _ => none

namespace Session

/-- The building that answering the pending line makes. -/
def answerMade? (s : Session σ) (clock : Clock) : Option Made :=
  match s.pending with
  | none => none
  | some text =>
    match dispatch s.collection text clock s.stamps with
    | .ok (outcome, stamps) => outcome.reply.made?.map (⟨·, stamps.last⟩)
    | .error _ => none

/-- The building that an operation makes. -/
def made? (s : Session σ) (op : Operation) (clock : Clock) : Option Made :=
  match op with
  | .finish => s.answerMade? clock
  | .send text =>
    match s.start text clock with
    | (true, busy) => busy.answerMade? clock
    | (false, _) => none
  | _ => none

end Session

/-! ## What an answer does to the buildings -/

/-- The ids of the buildings stay, or a building of a new name is added and made active. Its stamp is
    beyond those drawn before. -/
inductive Collection.Gains (clock : Clock) (low high : Nat) (c c' : Collection) :
    Option Made → Prop
  | same (hids : c'.buildings.map (·.id) = c.buildings.map (·.id)) : Gains clock low high c c' none
  | grown {m : Made} {b : Building} (hc : c' = c.withNewActive b) (hid : b.id = m.id)
      (hname : b.name = m.name) (hnew : c.findByName? m.name = none) (hlow : low < m.stamp)
      (hhigh : m.stamp ≤ high) (hread : ∃ n, clock.reading n ≤ m.stamp) :
      Gains clock low high c c' (some m)

variable {clock : Clock} {c c' : Collection} {low low' high high' : Nat} {made : Option Made}

namespace Collection.Gains

theorem widen (h : Gains clock low high c c' made) (hlow : low' ≤ low) (hhigh : high ≤ high') :
    Gains clock low' high' c c' made := by
  cases h with
  | same hids => exact .same hids
  | grown hc hid hname hnew hlt hle hread =>
    exact .grown hc hid hname hnew (hlow.trans_lt hlt) (hle.trans hhigh) hread

theorem sublist (h : Gains clock low high c c' made) :
    (c.buildings.map (·.id)).Sublist (c'.buildings.map (·.id)) := by
  cases h with
  | same hids => rw [hids]
  | grown hc =>
    rw [hc, withNewActive, List.map_append]
    exact List.sublist_append_left ..

end Collection.Gains

namespace Intent

variable {intent : Intent} {s s' : Stamps} {o : Outcome}

theorem Answered.made?_eq_none {reply : Reply} (h : Answered c intent reply) :
    reply.made? = none := by
  cases h <;> rfl

theorem Turns.made?_eq_none {b b' : Building} {reply : Reply}
    (h : Turns clock b s intent b' reply s') : reply.made? = none := by
  cases h <;> rfl

/-- An intent makes a building exactly when the reply says so. -/
theorem Effect.gains (hclock : clock.IsPast maxQuantity) (h : Effect c clock s intent o s')
    (hfits : (o.collection.getD c).Fits) :
    s.high ≤ s'.high ∧ Collection.Gains clock s.high s'.high c (o.collection.getD c)
      (o.reply.made?.map (⟨·, s'.last⟩)) := by
  cases h with
  | answered hanswered =>
    rw [hanswered.made?_eq_none]
    exact ⟨le_rfl, .same rfl⟩
  | switched => exact ⟨le_rfl, .same rfl⟩
  | created hnew _ hb =>
    subst hb
    refine ⟨Stamps.high_le_next hclock s, ?_⟩
    refine .grown rfl rfl rfl hnew (Stamps.high_lt_next hclock s) ?_ ?_
    · exact Stamps.last_le_high _
    · exact ⟨s.last, le_max_left ..⟩
  | turned hb hturns =>
    rw [hturns.made?_eq_none]
    have hmem := Collection.mem_withBuilding hb hturns.id_eq
    exact ⟨(hturns.grows hclock (hfits _ hmem)).high_le, .same (Collection.map_id_withBuilding ..)⟩

end Intent

theorem dispatch_gains (hclock : clock.IsPast Intent.maxQuantity) {text : String}
    {s s' : Stamps} {o : Outcome} (h : dispatch c text clock s = .ok (o, s'))
    (hfits : (o.collection.getD c).Fits) :
    s.high ≤ s'.high ∧ Collection.Gains clock s.high s'.high c (o.collection.getD c)
      (o.reply.made?.map (⟨·, s'.last⟩)) := by
  unfold dispatch at h
  split at h
  · exact (Intent.apply_effect h).gains hclock hfits
  · cases h
    exact ⟨le_rfl, .same rfl⟩

/-! ## What a line of text does to a session -/

namespace Session

variable {s s' : Session σ}

/-- What would be loaded from the store are buildings that are there, or were there in this order. -/
def Mirrored (s : Session σ) : Prop :=
  (Saved.buildingIds s.store).Sublist (s.collection.buildings.map (·.id))

theorem mirrored_restore (store : σ) (clock : Clock) : (restore store clock).Mirrored :=
  List.Sublist.refl _

theorem exists_of_map_eq_ok {ε α β : Type} {f : α → β} {r : Except ε α} {b : β}
    (h : r.map f = .ok b) : ∃ a, r = .ok a ∧ f a = b := by
  cases r with
  | error e => cases h
  | ok a => exact ⟨a, rfl, Except.ok.inj h⟩

/-- What an operation does when it puts a line of text. -/
structure Proceeds (clock : Clock) (s : Session σ) (made : Option Made) (s' : Session σ) : Prop where
  high_le : s.stamps.high ≤ s'.stamps.high
  gains : Collection.Gains clock s.stamps.high s'.stamps.high s.collection s'.collection made
  mirrored : s.Mirrored → s'.Mirrored

theorem Proceeds.refl (clock : Clock) (s : Session σ) : Proceeds clock s none s :=
  ⟨le_rfl, .same rfl, id⟩

theorem collection_start (s : Session σ) (text : String) (clock : Clock) :
    (s.start text clock).2.collection = s.collection := by
  unfold start
  split <;> rfl

/-- What is done in two steps, of which the first makes nothing. -/
theorem Proceeds.after_start {busy : Session σ} (h : Proceeds clock s none busy)
    (hsame : busy.collection = s.collection) (h' : Proceeds clock busy made s') :
    Proceeds clock s made s' := by
  refine ⟨h.high_le.trans h'.high_le, ?_, fun hm => h'.mirrored (h.mirrored hm)⟩
  rw [← hsame]
  exact h'.gains.widen h.high_le le_rfl

variable [FaithfulBlobStore σ]

theorem mirrored_push (h : s.Mirrored) (sender : Sender) (content : String) (clock : Clock) :
    (s.push sender content clock).Mirrored := by
  have hne : buildingsKey ≠ messagesKey := by decide
  have hsaved : Saved.buildingIds (s.push sender content clock).store = Saved.buildingIds s.store ∨
      Saved.buildingIds (s.push sender content clock).store = [] :=
    Saved.buildingIds_save_ne s.store hne (s.push sender content clock).messages
  unfold Mirrored
  rcases hsaved with hsame | hnone
  · rw [hsame]
    exact h
  · rw [hnone]
    exact List.nil_sublist _

theorem mirrored_commit (h : s.Mirrored)
    (hgrown : (s.collection.buildings.map (·.id)).Sublist (c.buildings.map (·.id))) :
    (s.commit c).Mirrored := by
  unfold Mirrored
  show (Saved.buildingIds (Saved.save s.store buildingsKey c)).Sublist (c.buildings.map (·.id))
  rcases Saved.buildingIds_save s.store c with hnew | hold | hnone
  · rw [hnew]
  · rw [hold]
    exact h.trans hgrown
  · rw [hnone]
    exact List.nil_sublist _

/-- A message leaves the buildings alone. -/
theorem proceeds_push (hclock : clock.IsPast Intent.maxQuantity) (s : Session σ) (sender : Sender)
    (content : String) : Proceeds clock s none (s.push sender content clock) :=
  ⟨Stamps.high_le_next hclock s.stamps, .same rfl, fun h => mirrored_push h sender content clock⟩

theorem proceeds_start (hclock : clock.IsPast Intent.maxQuantity) (s : Session σ) (text : String) :
    Proceeds clock s none (s.start text clock).2 := by
  unfold start
  split
  · exact .refl clock s
  · obtain ⟨hle, hgains, hmirrored⟩ := proceeds_push hclock s .user text
    exact ⟨hle, hgains, hmirrored⟩

theorem proceeds_finish (hclock : clock.IsPast Intent.maxQuantity) {reply : Option String}
    (h : s.finish clock = .ok (reply, s')) (hfits : s'.collection.Fits) :
    Proceeds clock s (s.answerMade? clock) s' := by
  cases hpending : s.pending with
  | none =>
    simp only [finish, answerMade?, hpending] at h ⊢
    cases h
    exact .refl clock s
  | some text =>
    simp only [finish, answerMade?, hpending] at h ⊢
    cases hdispatch : dispatch s.collection text clock s.stamps with
    | error fault =>
      rw [hdispatch] at h
      cases h
    | ok result =>
      obtain ⟨⟨change, said⟩, stamps⟩ := result
      rw [hdispatch] at h
      cases h
      have hfits' : (change.getD s.collection).Fits := by
        cases change <;> exact hfits
      obtain ⟨hle, hgains⟩ := dispatch_gains hclock hdispatch hfits'
      have hreply := Stamps.high_le_next hclock stamps
      cases change with
      | none =>
        refine ⟨hle.trans hreply, hgains.widen le_rfl hreply, fun hm => ?_⟩
        exact mirrored_push (s := { s with pending := none, stamps }) hm .assistant said.message clock
      | some c =>
        refine ⟨hle.trans hreply, hgains.widen le_rfl hreply, fun hm => ?_⟩
        have hcommitted := mirrored_commit (s := { s with pending := none, stamps }) hm hgains.sublist
        exact mirrored_push hcommitted .assistant said.message clock

theorem proceeds_send (hclock : clock.IsPast Intent.maxQuantity) {text : String}
    {reply : Option String} (h : s.send text clock = .ok (reply, s')) (hfits : s'.collection.Fits) :
    Proceeds clock s (s.made? (.send text) clock) s' := by
  have hstarted := proceeds_start hclock s text
  have hsame := collection_start s text clock
  rcases hstart : s.start text clock with ⟨taken, busy⟩
  rw [hstart] at hstarted hsame
  cases taken with
  | true =>
    simp only [send, made?, hstart] at h ⊢
    exact hstarted.after_start hsame (proceeds_finish hclock h hfits)
  | false =>
    simp only [send, made?, hstart] at h ⊢
    cases h
    exact hstarted

/-- **What a line of text does to a session**, whether it is taken up, answered or both. -/
theorem proceeds_step (hclock : clock.IsPast Intent.maxQuantity) {op : Operation} {answer : Answer}
    (hchat : op.isChat) (h : s.step op clock = .ok (answer, s')) :
    Proceeds clock s (s.made? op clock) s' := by
  obtain ⟨hperform, hfits⟩ := perform_of_step h
  cases op with
  | start text =>
    cases hperform
    exact proceeds_start hclock s text
  | finish =>
    obtain ⟨⟨reply, next⟩, hfinish, heq⟩ := exists_of_map_eq_ok hperform
    cases heq
    exact proceeds_finish hclock hfinish hfits
  | send text =>
    obtain ⟨⟨reply, next⟩, hsend, heq⟩ := exists_of_map_eq_ok hperform
    cases heq
    exact proceeds_send hclock hsend hfits
  | _ => cases hchat

end Session

end Floorplan
