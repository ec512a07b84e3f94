import Floorplan.Proofs.Session.Action
import Floorplan.Proofs.Store.ReadBack

set_option autoImplicit false

/-! # The store mirrors the session

A session over a store in memory can be left at any moment and goes on as it was: what is loaded from
its store is its collection and, once a message has been added or the transcript has been begun anew,
its transcript (`Session.actAll_mirrored`). What was in the store before does not matter, even if it
cannot be read; then the session goes on without it, and its first change replaces it.

The buildings need no text in the store where they are what is loaded without one, at the beginning
and after they have been forgotten. That their numbers are words, and that the times of messages can be
written, is kept along with it. -/

namespace Floorplan

/-- The clock never gives a message a time, in nanoseconds, that is as much as a bound. -/
def Clock.IsBefore (clock : Clock) (t : Nat) : Prop := ∀ n, clock.nanos n < t

theorem Clock.isBefore_still {now t : Nat} (h : now * 1000000 < t) : (Clock.still now).IsBefore t :=
  fun _ => h

namespace Action

/-- The numbers of a building that the action brings are words. -/
def BringsWords : Action → Prop
  | operation (.update b) => b.InWords
  | revise r => ∀ b stamps, b.InWords → (r.change b stamps).1.InWords
  | _ => True

/-- Does the action add to the transcript, or begin it anew? -/
def speaks (a : Action) (answer : Answer) : Bool := a.clears || !(a.entries answer).isEmpty

end Action

/-- The building that is put in the place of another has numbers that are words. -/
theorem Action.Yields.inWords_synced {clock : Clock} {c : Collection} {stamps stamps' : Stamps}
    {a : Action} {answer : Answer} {b : Building}
    (h : a.Yields clock c stamps answer b stamps') (hc : c.InWords) (ha : a.BringsWords)
    (hlength : b.floors.length < wordLimit) : b.synced.InWords := by
  refine ⟨hlength, ?_⟩
  cases h with
  | given => exact ha.number_lt
  | edited hold e =>
    have hactive := hc _ (Collection.mem_of_active? hold)
    exact (e.evolves _ clock stamps).number_lt hlength hactive.number_lt
  | revised hold r =>
    have hactive := hc _ (Collection.mem_of_active? hold)
    exact (ha _ stamps hactive).number_lt

theorem Collection.NumberedAs.inWords {c c' : Collection} (h : c.NumberedAs c') (hc : c.InWords) :
    c'.InWords := by
  intro b' hb'
  obtain ⟨b, hb, htotal, hnumbers⟩ := h b' hb'
  refine ⟨?_, Building.number_lt_of_floorNumbers hnumbers (hc b hb).number_lt⟩
  rw [htotal]
  exact (hc b hb).totalFloors_lt

/-! ## What is loaded -/

namespace Saved

theorem ofText?_eq_some {α : Type} [Saved α] {s : String} {a : α} (h : ofText? s = some a) :
    ∃ j, ofJson? j = some a := by
  unfold ofText? at h
  split at h
  · cases h
  · obtain ⟨j, -, hj⟩ := Option.bind_eq_some_iff.1 h
    exact ⟨j, hj⟩

/-- What is loaded can be read from a document, or is the default. -/
theorem loadOr_cases {α σ : Type} [Saved α] [BlobStore σ] (store : σ) (key : String) (default : α) :
    loadOr store key default = default ∨ ∃ j, ofJson? j = some (loadOr store key default) := by
  unfold loadOr
  split
  · rename_i s _
    cases hread : (ofText? s : Option α) with
    | none => exact Or.inl rfl
    | some a => exact Or.inr (ofText?_eq_some hread)
  · exact Or.inl rfl

theorem loadOr_of_get {α σ : Type} [Saved α] [BlobStore σ] {store : σ} {key : String} {a : α}
    (hget : BlobStore.get store key = .ok (some (text a))) (hread : ofText? (text a) = some a)
    (default : α) : loadOr store key default = a := by
  simp only [loadOr, hget, hread, Option.getD_some]

end Saved

namespace Session

open Timestamp (nanosLimit)

/-! ## What is kept -/

/-- The buildings that are loaded are those of the session, and all that a session holds can be
    written. -/
structure Mirrors (s : Session MemoryStore) : Prop where
  inWords : s.collection.InWords
  writable : ∀ m ∈ s.messages, m.time.Writable
  buildings : BlobStore.get s.store buildingsKey = .ok (some (Saved.text s.collection)) ∨
    Saved.loadOr s.store buildingsKey Collection.empty = s.collection

/-- The transcript is in the store. -/
def MessagesSaved (s : Session MemoryStore) : Prop :=
  BlobStore.get s.store messagesKey = .ok (some (Saved.text s.messages))

variable {s s' : Session MemoryStore} {clock : Clock}

theorem buildingsKey_ne_messagesKey : buildingsKey ≠ messagesKey := by decide

/-- What is loaded depends only on what is under the key. -/
theorem loadOr_congr {α : Type} [Saved α] {store store' : MemoryStore} {key : String} (default : α)
    (h : BlobStore.get store' key = BlobStore.get store key) :
    Saved.loadOr store' key default = Saved.loadOr store key default := by
  simp only [Saved.loadOr, h]

theorem Mirrors.restore (store : MemoryStore) {opened : Clock} (h : opened.IsBefore nanosLimit) :
    (restore store opened).Mirrors := by
  refine ⟨?_, ?_, Or.inr rfl⟩
  · rcases Saved.loadOr_cases store buildingsKey Collection.empty with hnone | ⟨j, hread⟩
    · show (Saved.loadOr store buildingsKey Collection.empty).InWords
      rw [hnone]
      exact Collection.inWords_empty
    · exact Collection.inWords_of_ofJson? hread
  · rcases Saved.loadOr_cases store messagesKey (welcomeMessages (opened.nanos 0)) with
      hnone | ⟨j, hread⟩
    · show ∀ m ∈ Saved.loadOr store messagesKey (welcomeMessages (opened.nanos 0)), m.time.Writable
      rw [hnone]
      intro m hm
      rw [List.mem_singleton.1 hm]
      exact Timestamp.writable_ofNanos (h 0)
    · exact Json.forall_of_toList? (fun _ _ => Message.writable_of_ofJson?) hread

theorem Mirrors.push (h : s.Mirrors) (hclock : clock.IsBefore nanosLimit) (sender : Sender)
    (content : String) :
    (s.push sender content clock).Mirrors ∧ (s.push sender content clock).MessagesSaved := by
  have hother : BlobStore.get (s.push sender content clock).store buildingsKey
      = BlobStore.get s.store buildingsKey :=
    MemoryStore.get_set_ne s.store _ buildingsKey_ne_messagesKey
  refine ⟨⟨h.inWords, ?_, ?_⟩, MemoryStore.get_set ..⟩
  · intro m hm
    rcases List.mem_append.1 hm with hm | hm
    · exact h.writable m hm
    · rw [List.mem_singleton.1 hm]
      exact Timestamp.writable_ofNanos (hclock _)
  · rw [hother, loadOr_congr _ hother]
    exact h.buildings

theorem Mirrors.commit (h : s.Mirrors) {c : Collection} (hc : c.InWords) : (s.commit c).Mirrors :=
  ⟨hc, h.writable, Or.inl (MemoryStore.get_set ..)⟩

theorem MessagesSaved.commit (h : s.MessagesSaved) (c : Collection) :
    (s.commit c).MessagesSaved := by
  have hother : BlobStore.get (s.commit c).store messagesKey = BlobStore.get s.store messagesKey :=
    MemoryStore.get_set_ne s.store _ buildingsKey_ne_messagesKey.symm
  unfold MessagesSaved
  rw [hother]
  exact h

theorem mirrors_clear (s : Session MemoryStore) (hclock : clock.IsBefore nanosLimit) :
    (s.clear clock).Mirrors ∧ (s.clear clock).MessagesSaved := by
  have hforgotten : BlobStore.get (s.clear clock).store buildingsKey = .ok none := by
    have hother : BlobStore.get (s.clear clock).store buildingsKey
        = BlobStore.get (Saved.forget s.store buildingsKey) buildingsKey :=
      MemoryStore.get_set_ne _ _ buildingsKey_ne_messagesKey
    rw [hother]
    exact MemoryStore.get_remove s.store buildingsKey
  refine ⟨⟨Collection.inWords_empty, ?_, Or.inr ?_⟩, MemoryStore.get_set ..⟩
  · intro m hm
    rw [List.mem_singleton.1 hm]
    exact Timestamp.writable_ofNanos (hclock _)
  · simp only [Saved.loadOr, hforgotten]
    rfl

/-! ## What an action keeps -/

theorem Mirrors.taken (h : s.Mirrors) (hclock : clock.IsBefore nanosLimit) (text : String) :
    (s.taken text clock).Mirrors := by
  obtain ⟨hwords, htimes, hbuildings⟩ := (h.push hclock .user text).1
  exact ⟨hwords, htimes, hbuildings⟩

theorem Mirrors.answered (h : s.Mirrors) (hclock : clock.IsBefore nanosLimit) {text : String}
    {o : Outcome} {stamps : Stamps}
    (hdispatch : dispatch s.collection text clock s.stamps = .ok (o, stamps))
    (hfits : (s.answered o stamps clock).collection.Fits) :
    (s.answered o stamps clock).Mirrors ∧ (s.answered o stamps clock).MessagesSaved := by
  rw [collection_answered] at hfits
  have hwords := dispatch_inWords hdispatch hfits h.inWords
  have hidle : Mirrors { s with pending := none, stamps } := ⟨h.inWords, h.writable, h.buildings⟩
  unfold Session.answered
  cases hcollection : o.collection with
  | none => exact hidle.push hclock .assistant _
  | some c =>
    rw [hcollection] at hwords
    exact (hidle.commit hwords).push hclock .assistant _

theorem Mirrors.replaced (h : s.Mirrors) (hclock : clock.IsBefore nanosLimit) {a : Action}
    {answer : Answer} {b : Building} {stamps : Stamps}
    (hyields : a.Yields clock s.collection s.stamps answer b stamps) (ha : a.BringsWords)
    (hfits : (s.collection.withBuilding b.synced).Fits) :
    (updateBuilding { s with stamps } b clock).Mirrors ∧
      (updateBuilding { s with stamps } b clock).MessagesSaved := by
  have hdrawn : Mirrors { s with stamps } := ⟨h.inWords, h.writable, h.buildings⟩
  have hwords : (s.collection.withBuilding b.synced).InWords :=
    h.inWords.withBuilding hfits (hyields.inWords_synced h.inWords ha)
  exact (hdrawn.commit hwords).push hclock .assistant _

/-- **What every action keeps**: the store mirrors the buildings, and the transcript once something has
    been said. -/
theorem Outturn.mirrors {a : Action} {answer : Answer} (h : Outturn clock s a answer s')
    (hs : s.Mirrors) (hclock : clock.IsBefore nanosLimit) (ha : a.BringsWords)
    (hfits : s'.collection.Fits) :
    s'.Mirrors ∧ (a.speaks answer ∨ s.MessagesSaved → s'.MessagesSaved) := by
  cases h with
  | @kept a answer stamps hentries hclears hle =>
    refine ⟨⟨hs.inWords, hs.writable, hs.buildings⟩, ?_⟩
    rintro (hspeaks | hsaved)
    · simp [Action.speaks, hentries, hclears] at hspeaks
    · exact hsaved
  | taken => exact ⟨hs.taken hclock _, fun _ => (hs.push hclock .user _).2⟩
  | answered _ hdispatch =>
    obtain ⟨hmirrors, hsaved⟩ := hs.answered hclock hdispatch hfits
    exact ⟨hmirrors, fun _ => hsaved⟩
  | sent _ hdispatch =>
    obtain ⟨hmirrors, hsaved⟩ := (hs.taken hclock _).answered hclock hdispatch hfits
    exact ⟨hmirrors, fun _ => hsaved⟩
  | attached hentries hclears hnumbers =>
    refine ⟨hs.commit (hnumbers.inWords hs.inWords), ?_⟩
    rintro (hspeaks | hsaved)
    · simp [Action.speaks, hentries, hclears] at hspeaks
    · exact hsaved.commit _
  | replaced hyields =>
    obtain ⟨hmirrors, hsaved⟩ := hs.replaced hclock hyields ha hfits
    exact ⟨hmirrors, fun _ => hsaved⟩
  | cleared =>
    obtain ⟨hmirrors, hsaved⟩ := mirrors_clear s hclock
    exact ⟨hmirrors, fun _ => hsaved⟩

/-! ## Courses of actions -/

/-- Has anything been said, or the transcript been begun anew? -/
def spoken (events : List (Action × Answer)) : Bool := events.any fun e => e.1.speaks e.2

/-- Whatever is done with a session, its store mirrors it. -/
theorem actAll_mirrors {start : Session MemoryStore} {steps : List (Action × Clock)}
    {events : List (Action × Answer)} (hstart : start.Mirrors)
    (hclock : ∀ x ∈ steps, x.2.IsBefore nanosLimit) (hwords : ∀ x ∈ steps, x.1.BringsWords)
    (h : start.actAll steps = .ok (events, s)) :
    s.Mirrors ∧ (spoken events → s.MessagesSaved) := by
  have hsilent : start.Mirrors ∧ (spoken [] → start.MessagesSaved) := by
    refine ⟨hstart, fun hspoken => ?_⟩
    cases hspoken
  refine actAll_induction (p := fun events s => s.Mirrors ∧ (spoken events → s.MessagesSaved))
    ?_ hsilent h
  rintro ⟨a, clock⟩ hmem past s answer s' ⟨hs, hpast⟩ houtturn hfits
  obtain ⟨hmirrors, hsaved⟩ := houtturn.mirrors hs (hclock _ hmem) (hwords _ hmem) hfits
  refine ⟨hmirrors, fun hspoken => hsaved ?_⟩
  rw [spoken, List.any_append, Bool.or_eq_true] at hspoken
  rcases hspoken with hbefore | hnow
  · exact Or.inr (hpast hbefore)
  · exact Or.inl (by simpa using hnow)

/-- **The store mirrors the session** at every moment: the end of the course is any of them. The
    collection is loaded as it is, and the transcript from the first message or new beginning on; so a
    session that is restored from the store then is the same. The clocks stay below the year 10000, and
    the coordinates that there are have to be read as they are written. -/
theorem actAll_mirrored {store : MemoryStore} {opened : Clock} {steps : List (Action × Clock)}
    {events : List (Action × Answer)} (hopened : opened.IsBefore nanosLimit)
    (hclock : ∀ x ∈ steps, x.2.IsBefore nanosLimit) (hwords : ∀ x ∈ steps, x.1.BringsWords)
    (h : (restore store opened).actAll steps = .ok (events, s))
    (hcoordinates : ∀ x ∈ s.collection.coordinates, x.ReadsBack) :
    Saved.loadOr s.store buildingsKey Collection.empty = s.collection ∧
      (spoken events →
        (∀ default, Saved.loadOr s.store messagesKey default = s.messages) ∧
        ∀ reopened, (restore s.store reopened).collection = s.collection ∧
          (restore s.store reopened).messages = s.messages) := by
  obtain ⟨hmirrors, hsaved⟩ := actAll_mirrors (.restore store hopened) hclock hwords h
  have hcollection : Saved.loadOr s.store buildingsKey Collection.empty = s.collection := by
    rcases hmirrors.buildings with hget | hloaded
    · exact Saved.loadOr_of_get hget (Saved.ofText?_collection hmirrors.inWords hcoordinates) _
    · exact hloaded
  refine ⟨hcollection, fun hspoken => ?_⟩
  have hmessages : ∀ default, Saved.loadOr s.store messagesKey default = s.messages :=
    Saved.loadOr_of_get (hsaved hspoken) (Saved.ofText?_messages hmirrors.writable)
  exact ⟨hmessages, fun _ => ⟨hcollection, hmessages _⟩⟩

/-- A store with a building that has no floors, and with a transcript that cannot be read. -/
def inherited : MemoryStore :=
  ⟨[(buildingsKey, Saved.text (⟨[⟨"h", "Hall", 1, []⟩], some "h"⟩ : Collection)),
    (messagesKey, "no transcript")]⟩

/-- The building is given a floor, then replaced, and loses its last floor while a line waits for its
    answer. -/
def refitted : List (Action × Clock) :=
  [(.operation (.send "add 1 floor"), .still 5),
   (.operation (.update { Saved.annex with id := "h" }), .still 253402300799999),
   (.operation (.setFixture "f" "r" none), .still 0),
   (.operation (.start "list buildings"), ⟨fun _ => 5, fun _ => 5123456⟩),
   (.revise (.ofEdit fun b => { b with floors := b.floors.take 1 }), .still 7)]

set_option maxRecDepth 100000 in
theorem refitted_mirrored :
    ∃ events s, (restore inherited (.still 3)).actAll refitted = .ok (events, s) ∧
      Saved.loadOr s.store buildingsKey Collection.empty = s.collection ∧
      spoken events ∧
      (spoken events →
        (∀ default, Saved.loadOr s.store messagesKey default = s.messages) ∧
        ∀ reopened, (restore s.store reopened).collection = s.collection ∧
          (restore s.store reopened).messages = s.messages) := by
  obtain ⟨events, s, h, hchecked⟩ := exists_of_isOk
    (p := fun events s => spoken events && decide (∀ x ∈ s.collection.coordinates, x.ReadsBack))
    (r := (restore inherited (.still 3)).actAll refitted) (by decide +kernel)
  rw [Bool.and_eq_true, decide_eq_true_eq] at hchecked
  obtain ⟨hspoken, hcoordinates⟩ := hchecked
  have hopened : (Clock.still 3).IsBefore nanosLimit := Clock.isBefore_still (by decide)
  have hclock : ∀ x ∈ refitted, x.2.IsBefore nanosLimit := by
    simp only [refitted, List.forall_mem_cons, List.not_mem_nil, IsEmpty.forall_iff,
      implies_true, and_true]
    refine ⟨?_, ?_, ?_, fun _ => (by decide : 5123456 < nanosLimit), ?_⟩ <;>
      exact Clock.isBefore_still (by decide)
  have hannex : Saved.annex.InWords := ⟨by decide, by decide⟩
  have hwords : ∀ x ∈ refitted, x.1.BringsWords := by
    simp only [refitted, List.forall_mem_cons, List.not_mem_nil, IsEmpty.forall_iff,
      implies_true, and_true]
    refine ⟨trivial, ⟨hannex.totalFloors_lt, hannex.number_lt⟩, trivial, trivial, ?_⟩
    exact fun b _ hb => ⟨hb.totalFloors_lt, fun f hf => hb.number_lt f (List.mem_of_mem_take hf)⟩
  obtain ⟨hcollection, hmessages⟩ := actAll_mirrored hopened hclock hwords h hcoordinates
  exact ⟨events, s, h, hcollection, hspoken, hmessages⟩

end Session

end Floorplan
