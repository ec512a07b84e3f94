import Floorplan.Proofs.Session.Line

set_option autoImplicit false

/-! # Sessions one after another on one store

The stamps that a session has drawn are not saved. When the store is opened anew the stamps start over
from the clock, while those that were drawn last time may be ahead of it; so the id of a building can be
drawn again. This module says exactly when: the buildings have different ids at every moment of a
history if and only if no building is made with an id that was found when the store was opened, and if
and only if the building that a reply says was made is the active one
(`Sitting.distinct_iff`). This is so whenever the clock has got past the stamps drawn before by the
time the store is opened anew (`Sitting.distinct_of_catchesUp`), but not in general
(`Sitting.recreated_collides`). -/

namespace Floorplan

variable {σ : Type} [BlobStore σ] {clock : Clock}

/-! ## Histories -/

/-- What happens to a store: it is opened anew, or something is done with the session on it. -/
inductive Event where
  | reopen
  | operate (op : Operation)

/-- Does the event put lines of text to a session, if it does anything with one? -/
def Event.isChat : Event → Bool
  | reopen => true
  | operate op => op.isChat

/-- A session on a store, with what was there when it began. -/
structure Sitting (σ : Type) where
  /-- The ids of the buildings that were found in the store. -/
  restored : List String
  session : Session σ
  /-- What the last event has made. -/
  made : Option Made := none

namespace Sitting

/-- The ids of the buildings, in order. -/
def ids (x : Sitting σ) : List String := x.session.collection.buildings.map (·.id)

/-- A store is opened. -/
def opened (store : σ) (clock : Clock) : Sitting σ :=
  { restored := Saved.buildingIds store, session := .restore store clock }

/-- The sitting after an event. -/
def step (x : Sitting σ) (e : Event) (clock : Clock) : Except Stop (Sitting σ) :=
  match e with
  | .reopen => .ok (opened x.session.store clock)
  | .operate op =>
    match x.session.step op clock with
    | .error stop => .error stop
    | .ok (_, session) => .ok { x with session, made := x.session.made? op clock }

/-- The moments of a history. They end early if an operation does. -/
def moments (x : Sitting σ) : List (Event × Clock) → List (Sitting σ)
  | [] => [x]
  | (e, clock) :: events =>
    match x.step e clock with
    | .error _ => [x]
    | .ok y => x :: y.moments events

/-- The buildings have different ids. -/
def Distinct (x : Sitting σ) : Prop := x.ids.Nodup

/-- What has been made has an id that was not in the store when it was opened. -/
def MadeAnew (x : Sitting σ) : Prop := ∀ m ∈ x.made, m.id ∉ x.restored

/-- What a reply says has been made is active. -/
def MadeActive (x : Sitting σ) : Prop :=
  ∀ m ∈ x.made, x.session.collection.active?.map (·.name) = some m.name

instance (x : Sitting σ) : Decidable x.Distinct := inferInstanceAs (Decidable x.ids.Nodup)

instance (x : Sitting σ) : Decidable x.MadeAnew :=
  inferInstanceAs (Decidable (∀ m ∈ x.made, m.id ∉ x.restored))

instance (x : Sitting σ) : Decidable x.MadeActive :=
  inferInstanceAs
    (Decidable (∀ m ∈ x.made, x.session.collection.active?.map (·.name) = some m.name))

variable {x y : Sitting σ} {e : Event}

/-! ## What an event does to a sitting -/

/-- The invariant of a sitting. What was found in the store is still there, everything else has a stamp
    that this session has drawn, and the store is up to date but for what cannot be loaded. -/
structure Ready (x : Sitting σ) : Prop where
  restored : ∀ id ∈ x.restored, id ∈ x.ids
  issued : ∀ id ∈ x.ids, id ∈ x.restored ∨ Numbered "building-" x.session.stamps.high id
  mirrored : x.session.Mirrored

theorem ready_opened (store : σ) (clock : Clock) : (opened store clock).Ready :=
  ⟨fun _ => id, fun _ => Or.inl, Session.mirrored_restore store clock⟩

/-- What an event does to the buildings. -/
inductive Changes (clock : Clock) (x y : Sitting σ) : Prop
  | kept (hmade : y.made = none) (hids : y.ids.Sublist x.ids)
  | grown {m : Made} {b : Building} (hmade : y.made = some m) (hrestored : y.restored = x.restored)
      (hid : b.id = m.id) (hname : b.name = m.name)
      (hnew : x.session.collection.findByName? m.name = none)
      (hc : y.session.collection = x.session.collection.withNewActive b)
      (hold : m.id ∈ x.ids ↔ m.id ∈ x.restored) (hread : ∃ n, clock.reading n ≤ m.stamp)

omit [BlobStore σ] in
theorem distinct_iff_of_grown {m : Made} {b : Building} (hid : b.id = m.id)
    (hc : y.session.collection = x.session.collection.withNewActive b) (hx : x.Distinct) :
    y.Distinct ↔ m.id ∉ x.ids := by
  have hids : y.ids = x.ids.concat m.id := by
    rw [ids, hc, ← hid, List.concat_eq_append]
    exact List.map_append
  rw [Distinct, hids, List.nodup_concat]
  exact and_iff_left hx

omit [BlobStore σ] in
/-- The only id that can be made twice is one that was found in the store. -/
theorem Changes.distinct_iff_madeAnew (h : Changes clock x y) (hx : x.Distinct) :
    y.Distinct ↔ y.MadeAnew := by
  cases h with
  | kept hmade hids => exact iff_of_true (hx.sublist hids) (by simp [MadeAnew, hmade])
  | grown hmade hrestored hid hname hnew hc hold hread =>
    rw [distinct_iff_of_grown hid hc hx, hold, ← hrestored]
    simp [MadeAnew, hmade]

omit [BlobStore σ] in
/-- If an id is there already then it is the other building of that id that is active, and its name
    is not the one in the reply. -/
theorem Changes.distinct_iff_madeActive (h : Changes clock x y) (hx : x.Distinct) :
    y.Distinct ↔ y.MadeActive := by
  cases h with
  | kept hmade hids => exact iff_of_true (hx.sublist hids) (by simp [MadeActive, hmade])
  | @grown m b hmade hrestored hid hname hnew hc hold hread =>
    have hactive : y.session.collection.active?
        = (x.session.collection.findById? m.id).or (some b) := by
      simp [hc, Collection.withNewActive, Collection.active?, Collection.findById?, hid]
    rw [distinct_iff_of_grown hid hc hx]
    cases hfound : x.session.collection.findById? m.id with
    | none =>
      refine iff_of_true (fun hmem => ?_) (by simp [MadeActive, hmade, hactive, hfound, hname])
      obtain ⟨b', hb', hid'⟩ := List.mem_map.1 hmem
      simpa [hid'] using List.find?_eq_none.1 hfound b' hb'
    | some b' =>
      -- The older building is found first, and a name that was taken would have been refused.
      have hmem := List.mem_of_find?_eq_some hfound
      have hid' : b'.id = m.id := by simpa using List.find?_some hfound
      refine iff_of_false (fun hnot => hnot (List.mem_map.2 ⟨b', hmem, hid'⟩)) fun hright => ?_
      have hname' : b'.name = m.name := by simpa [MadeActive, hmade, hactive, hfound] using hright
      simpa [hname'] using List.find?_eq_none.1 hnew b' hmem

variable [FaithfulBlobStore σ]

/-- **The invariant is kept by every event**, and only a reply that says so adds a building. -/
theorem Ready.step (hclock : clock.IsPast Intent.maxQuantity) (hchat : e.isChat) (h : x.Ready)
    (hstep : x.step e clock = .ok y) : y.Ready ∧ Changes clock x y := by
  cases e with
  | reopen =>
    cases hstep
    exact ⟨ready_opened x.session.store clock, .kept rfl h.mirrored⟩
  | operate op =>
    simp only [Sitting.step] at hstep
    split at hstep
    · cases hstep
    · rename_i answer session hsession
      cases hstep
      obtain ⟨hle, hgains, hmirrored⟩ := Session.proceeds_step hclock hchat hsession
      have hnumbered : ∀ id ∈ x.ids,
          id ∈ x.restored ∨ Numbered "building-" session.stamps.high id := by
        intro id hid
        exact (h.issued id hid).imp_right (.mono hle)
      generalize hmade : x.session.made? op clock = made at hgains
      cases hgains with
      | same hids =>
        have hsame : session.collection.buildings.map (·.id) = x.ids := hids
        refine ⟨⟨fun id hid => ?_, fun id hid => ?_, hmirrored h.mirrored⟩, .kept rfl ?_⟩
        · rw [ids, hsame]
          exact h.restored id hid
        · rw [ids, hsame] at hid
          exact hnumbered id hid
        · rw [ids, hsame]
      | @grown m b hc hid hname hnew hlow hhigh hread =>
        have hids : session.collection.buildings.map (·.id) = x.ids ++ [m.id] := by
          rw [hc, ← hid]
          simp [Collection.withNewActive, ids]
        refine ⟨⟨fun id hid => ?_, fun id hid => ?_, hmirrored h.mirrored⟩,
          .grown rfl rfl hid hname hnew hc ⟨fun hmem => ?_, h.restored m.id⟩ hread⟩
        · rw [ids, hids]
          exact List.mem_append_left _ (h.restored id hid)
        · rw [ids, hids] at hid
          rcases List.mem_append.1 hid with hid | hid
          · exact hnumbered id hid
          · exact Or.inr ⟨m.stamp, hhigh, List.mem_singleton.1 hid⟩
        -- The stamp is beyond those of this session, so only an earlier one can have drawn it.
        · rcases h.issued m.id hmem with hrestored | hissued
          · exact hrestored
          · exact absurd hissued (not_numbered_of_lt hlow)

/-! ## Histories without collisions -/

omit [FaithfulBlobStore σ] in
theorem mem_moments_self (x : Sitting σ) (events : List (Event × Clock)) :
    x ∈ x.moments events := by
  cases events with
  | nil => simp [moments]
  | cons ev events =>
    simp only [moments]
    split <;> simp

omit [FaithfulBlobStore σ] in
/-- Two properties that each step gains or loses together hold at every moment or at none. -/
theorem moments_iff (inv : Sitting σ → Prop) {p q : Sitting σ → Prop} {events : List (Event × Clock)}
    (hstep : ∀ ev ∈ events, ∀ x y, inv x → x.step ev.1 ev.2 = .ok y →
      inv y ∧ (p x → (p y ↔ q y)))
    (hinv : inv x) (hp : p x) (hq : q x) :
    (∀ y ∈ x.moments events, p y) ↔ ∀ y ∈ x.moments events, q y := by
  induction events generalizing x with
  | nil => simp [moments, hp, hq]
  | cons ev events ih =>
    obtain ⟨hfirst, hrest⟩ := List.forall_mem_cons.1 hstep
    simp only [moments]
    split
    · simp [hp, hq]
    · rename_i y hy
      obtain ⟨hinv', hsame⟩ := hfirst x y hinv hy
      have hhead := y.mem_moments_self events
      -- If both are lost at this moment it does not matter what follows.
      by_cases hpy : p y
      · simp only [List.forall_mem_cons, hp, hq, true_and]
        exact ih hrest hinv' hpy ((hsame hp).1 hpy)
      · refine iff_of_false (fun hall => hpy ?_) fun hall => hpy ((hsame hp).2 ?_)
        · exact hall y (List.mem_cons_of_mem _ hhead)
        · exact hall y (List.mem_cons_of_mem _ hhead)

/-- **When ids collide.** Sessions are opened one after another on a faithful store that holds
    buildings with different ids, or none, and lines of text are put to them. The buildings have
    different ids at every moment if and only if no building is made with an id that was found in the
    store, and if and only if whatever a reply says has been made is active. -/
theorem distinct_iff (store : σ) (opening : Clock) {events : List (Event × Clock)}
    (hopened : (opened store opening).Distinct)
    (hclock : ∀ ev ∈ events, ev.2.IsPast Intent.maxQuantity) (hchat : ∀ ev ∈ events, ev.1.isChat) :
    ((∀ x ∈ (opened store opening).moments events, x.Distinct) ↔
        ∀ x ∈ (opened store opening).moments events, x.MadeAnew) ∧
      ((∀ x ∈ (opened store opening).moments events, x.Distinct) ↔
        ∀ x ∈ (opened store opening).moments events, x.MadeActive) := by
  have hready := ready_opened store opening
  refine ⟨moments_iff Ready (fun ev hev x y hx hstep => ?_) hready hopened ?_,
    moments_iff Ready (fun ev hev x y hx hstep => ?_) hready hopened ?_⟩
  · obtain ⟨hy, hchanges⟩ := hx.step (hclock ev hev) (hchat ev hev) hstep
    exact ⟨hy, hchanges.distinct_iff_madeAnew⟩
  · simp [MadeAnew, opened]
  · obtain ⟨hy, hchanges⟩ := hx.step (hclock ev hev) (hchat ev hev) hstep
    exact ⟨hy, hchanges.distinct_iff_madeActive⟩
  · simp [MadeActive, opened]

/-- The second building is made after the store has been opened anew and a second has passed. -/
def renewed : List (Event × Clock) :=
  [(.operate (.send "create A with 0 floors, 0 restrooms"), .still 1000),
   (.reopen, .still 1000),
   (.operate (.send "create B with 0 floors, 0 restrooms"), .still 2000)]

set_option maxRecDepth 100000 in
theorem renewed_distinct :
    (∀ x ∈ (opened ({} : MemoryStore) (.still 1000)).moments renewed, x.Distinct) ∧
      ∀ x ∈ (opened ({} : MemoryStore) (.still 1000)).moments renewed, x.MadeActive := by
  have hopened : (opened ({} : MemoryStore) (.still 1000)).Distinct := List.nodup_nil
  have hclock : ∀ ev ∈ renewed, ev.2.IsPast Intent.maxQuantity := by
    simp [renewed, Intent.maxQuantity]
  obtain ⟨hanew, hactive⟩ := distinct_iff ({} : MemoryStore) (.still 1000) hopened hclock (by decide)
  have hdistinct := hanew.2 (by decide +kernel)
  exact ⟨hdistinct, hactive.1 hdistinct⟩

/-- Whenever the store is opened anew, the clock is past the stamps that have been drawn until then,
    and stays past them. -/
def CatchesUp (x : Sitting σ) : List (Event × Clock) → Prop
  | [] => True
  | (e, clock) :: events =>
    (e = .reopen → ∀ later ∈ events, later.2.IsPast x.session.stamps.high) ∧
      ∀ y, x.step e clock = .ok y → y.CatchesUp events

/-- The ids that were found in the store have stamps that the clock is past. -/
def Behind (x : Sitting σ) (events : List (Event × Clock)) : Prop :=
  ∃ bound, (∀ id ∈ x.restored, Numbered "building-" bound id) ∧ ∀ ev ∈ events, ev.2.IsPast bound

omit [FaithfulBlobStore σ] in
theorem Behind.step {events : List (Event × Clock)} (hx : x.Ready)
    (hcatch : e = .reopen → ∀ later ∈ events, later.2.IsPast x.session.stamps.high)
    (h : x.Behind ((e, clock) :: events)) (hstep : x.step e clock = .ok y) : y.Behind events := by
  obtain ⟨bound, hrestored, hpast⟩ := h
  obtain ⟨-, hlater⟩ := List.forall_mem_cons.1 hpast
  cases e with
  | reopen =>
    cases hstep
    refine ⟨max bound x.session.stamps.high, fun id hid => ?_, fun later hmem n => ?_⟩
    · rcases hx.issued id (hx.mirrored.subset hid) with hold | hissued
      · exact (hrestored id hold).mono (le_max_left ..)
      · exact hissued.mono (le_max_right ..)
    · exact max_lt (hlater later hmem n) (hcatch rfl later hmem n)
  | operate op =>
    simp only [Sitting.step] at hstep
    split at hstep <;> cases hstep
    exact ⟨bound, hrestored, hlater⟩

omit [BlobStore σ] [FaithfulBlobStore σ] in
/-- A stamp is not less than a reading of the clock, so it is none of those that the clock is past. -/
theorem Changes.madeAnew {events : List (Event × Clock)} (h : Changes clock x y)
    (hx : x.Behind ((e, clock) :: events)) : y.MadeAnew := by
  cases h with
  | kept hmade hids => simp [MadeAnew, hmade]
  | @grown m b hmade hrestored hid hname hnew hc hold hread =>
    obtain ⟨bound, hbehind, hpast⟩ := hx
    obtain ⟨n, hread⟩ := hread
    have hlt : bound < m.stamp := (hpast _ List.mem_cons_self n).trans_le hread
    simp only [MadeAnew, hmade, hrestored, Option.mem_def, Option.some.injEq, forall_eq']
    exact fun hmem => not_numbered_of_lt hlt (hbehind m.id hmem)

theorem distinct_of_behind {events : List (Event × Clock)}
    (hclock : ∀ ev ∈ events, ev.2.IsPast Intent.maxQuantity) (hchat : ∀ ev ∈ events, ev.1.isChat)
    (hx : x.Ready) (hdistinct : x.Distinct) (hbehind : x.Behind events)
    (hcatches : x.CatchesUp events) : ∀ y ∈ x.moments events, y.Distinct := by
  induction events generalizing x with
  | nil => simpa [moments] using hdistinct
  | cons ev events ih =>
    obtain ⟨hclock, hclocks⟩ := List.forall_mem_cons.1 hclock
    obtain ⟨hchat, hchats⟩ := List.forall_mem_cons.1 hchat
    obtain ⟨hcatch, hcatches⟩ := hcatches
    simp only [moments]
    split
    · simpa using hdistinct
    · rename_i y hy
      obtain ⟨hready, hchanges⟩ := hx.step hclock hchat hy
      have hdistinct' := (hchanges.distinct_iff_madeAnew hdistinct).2 (hchanges.madeAnew hbehind)
      rw [List.forall_mem_cons]
      exact ⟨hdistinct, ih hclocks hchats hready hdistinct' (hbehind.step hx hcatch hy)
        (hcatches y hy)⟩

/-- **If the clock catches up** before the store is opened anew then ids do not collide. -/
theorem distinct_of_catchesUp {store : σ} (hstore : BlobStore.get store buildingsKey = .ok none)
    (opening : Clock) {events : List (Event × Clock)}
    (hclock : ∀ ev ∈ events, ev.2.IsPast Intent.maxQuantity) (hchat : ∀ ev ∈ events, ev.1.isChat)
    (hcatches : (opened store opening).CatchesUp events) :
    ∀ x ∈ (opened store opening).moments events, x.Distinct := by
  have hnone : Saved.buildingIds store = [] :=
    Saved.buildingIds_eq_nil fun found => by rw [hstore]; simp
  refine distinct_of_behind hclock hchat (ready_opened store opening) ?_ ?_ hcatches
  · show (Saved.buildingIds store).Nodup
    rw [hnone]
    exact List.nodup_nil
  · exact ⟨Intent.maxQuantity, by simp [opened, hnone], hclock⟩

/-! ## A collision -/

/-- Two buildings are made in the same millisecond, the second one after the store has been opened
    anew. -/
def recreated : List (Event × Clock) :=
  [(.operate (.send "create A with 0 floors, 0 restrooms"), .still 1000),
   (.reopen, .still 1000),
   (.operate (.send "create B with 0 floors, 0 restrooms"), .still 1000)]

set_option maxRecDepth 100000 in
theorem recreated_collides :
    (∀ ev ∈ recreated, ev.2 = .still 1000 ∧ ev.1.isChat) ∧
      ¬ (∀ x ∈ (opened ({} : MemoryStore) (.still 1000)).moments recreated, x.Distinct) ∧
      ¬ (∀ x ∈ (opened ({} : MemoryStore) (.still 1000)).moments recreated, x.MadeActive) := by
  refine ⟨by simp [recreated, Event.isChat, Operation.isChat], ?_⟩
  decide +kernel

end Sitting

end Floorplan
