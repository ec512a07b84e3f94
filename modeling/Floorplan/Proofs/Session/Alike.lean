import Floorplan.Proofs.Session.Action
import Floorplan.Proofs.Store.Directory

set_option autoImplicit false

/-! # Sessions over different stores are alike

A session reads its store only when it is restored. From then on it writes under two keys and does not
look at what comes of it, so that sessions over different stores go through the same states and give the
same answers (`Session.Alike.actAll`). What is said of the stores is carried along as a relation that
saving and forgetting keep (`BlobStore.Tracks`).

Files that are attached are no part of this. They are read from the disk on which the session is, and
that may be the disk on which the store keeps its own files (`Session.ownFile_differs`). -/

namespace Floorplan

variable {σ τ : Type} [BlobStore σ] [BlobStore τ]

/-- What a session does to its store, it does to another store with the same relation between them. -/
structure BlobStore.Tracks (R : σ → τ → Prop) : Prop where
  set : ∀ {store other}, R store other → ∀ key ∈ sessionKeys, ∀ text,
    R (BlobStore.set store key text).1 (BlobStore.set other key text).1
  remove : ∀ {store other}, R store other → ∀ key ∈ sessionKeys,
    R (BlobStore.remove store key).1 (BlobStore.remove other key).1

namespace Session

/-- The session over another store. -/
def onStore (s : Session σ) (store : τ) : Session τ :=
  { store, collection := s.collection, messages := s.messages, pending := s.pending
    stamps := s.stamps }

/-- The sessions hold the same, and their stores are related. -/
structure Alike (R : σ → τ → Prop) (s : Session σ) (t : Session τ) : Prop where
  stores : R s.store t.store
  collection_eq : t.collection = s.collection
  messages_eq : t.messages = s.messages
  pending_eq : t.pending = s.pending
  stamps_eq : t.stamps = s.stamps

/-- The outcomes are sessions that are alike, after the same answers, or early ends for one reason. -/
inductive Matches {α β ε : Type} (E : α → β → Prop) (R : σ → τ → Prop) :
    Except ε (α × Session σ) → Except ε (β × Session τ) → Prop
  | ended {a : α} {b : β} {s : Session σ} {t : Session τ} (hanswers : E a b) (h : Alike R s t) :
      Matches E R (.ok (a, s)) (.ok (b, t))
  | stopped (reason : ε) : Matches E R (.error reason) (.error reason)

variable {R : σ → τ → Prop} {s : Session σ} {t : Session τ} {clock : Clock}

namespace Alike

omit [BlobStore σ] [BlobStore τ] in
/-- Sessions that are alike are one session over two stores. -/
theorem exists_onStore (h : Alike R s t) : ∃ store, R s.store store ∧ t = s.onStore store := by
  obtain ⟨hstores, hcollection, hmessages, hpending, hstamps⟩ := h
  refine ⟨t.store, hstores, ?_⟩
  cases t
  simp only at hcollection hmessages hpending hstamps
  subst hcollection hmessages hpending hstamps
  rfl

/-! ## What a session is made of -/

variable (hR : BlobStore.Tracks R)

include hR

theorem commit (h : Alike R s t) (c : Collection) : Alike R (s.commit c) (t.commit c) :=
  ⟨hR.set h.stores _ (by decide) _, rfl, h.messages_eq, h.pending_eq, h.stamps_eq⟩

theorem push (h : Alike R s t) (sender : Sender) (content : String) (clock : Clock) :
    Alike R (s.push sender content clock) (t.push sender content clock) := by
  obtain ⟨store, hstore, rfl⟩ := h.exists_onStore
  exact ⟨hR.set hstore _ (by decide) _, rfl, rfl, rfl, rfl⟩

theorem clear (h : Alike R s t) (clock : Clock) : Alike R (s.clear clock) (t.clear clock) := by
  obtain ⟨store, hstore, rfl⟩ := h.exists_onStore
  exact ⟨hR.set (hR.remove hstore _ (by decide)) _ (by decide) _, rfl, rfl, rfl, rfl⟩

theorem taken (h : Alike R s t) (text : String) (clock : Clock) :
    Alike R (s.taken text clock) (t.taken text clock) := by
  obtain ⟨hstores, hcollection, hmessages, -, hstamps⟩ := h.push hR .user text clock
  exact ⟨hstores, hcollection, hmessages, rfl, hstamps⟩

theorem answered (h : Alike R s t) (o : Outcome) (stamps : Stamps) (clock : Clock) :
    Alike R (s.answered o stamps clock) (t.answered o stamps clock) := by
  have hidle : Alike R { s with pending := none, stamps } { t with pending := none, stamps } :=
    ⟨h.stores, h.collection_eq, h.messages_eq, rfl, rfl⟩
  unfold Session.answered
  cases o.collection with
  | none => exact hidle.push hR .assistant _ clock
  | some c => exact (hidle.commit hR c).push hR .assistant _ clock

theorem updateBuilding (h : Alike R s t) (b : Building) (clock : Clock) :
    Alike R (s.updateBuilding b clock) (t.updateBuilding b clock) := by
  unfold Session.updateBuilding
  rw [h.collection_eq]
  exact (h.commit hR _).push hR .assistant _ clock

/-! ## Lines of text -/

theorem start (h : Alike R s t) (text : String) (clock : Clock) :
    (t.start text clock).1 = (s.start text clock).1 ∧
      Alike R (s.start text clock).2 (t.start text clock).2 := by
  have hbusy : t.isProcessing = s.isProcessing := by
    unfold isProcessing
    rw [h.pending_eq]
  unfold Session.start
  rw [hbusy]
  split
  · exact ⟨rfl, h⟩
  · exact ⟨rfl, h.taken hR text clock⟩

theorem finish (h : Alike R s t) (clock : Clock) :
    Matches Eq R (s.finish clock) (t.finish clock) := by
  obtain ⟨store, hstore, rfl⟩ := h.exists_onStore
  cases hpending : s.pending with
  | none =>
    simp only [Session.finish, onStore, hpending]
    exact .ended rfl ⟨hstore, rfl, rfl, hpending.symm, rfl⟩
  | some text =>
    cases hdispatch : dispatch s.collection text clock s.stamps with
    | error fault =>
      simp only [Session.finish, onStore, hpending, hdispatch]
      exact .stopped fault
    | ok result =>
      obtain ⟨⟨change, reply⟩, stamps⟩ := result
      have hanswered := h.answered hR ⟨change, reply⟩ stamps clock
      simp only [Session.finish, onStore, hpending, hdispatch]
      cases change <;> exact .ended rfl hanswered

theorem send (h : Alike R s t) (text : String) (clock : Clock) :
    Matches Eq R (s.send text clock) (t.send text clock) := by
  obtain ⟨hsame, hbusy⟩ := h.start hR text clock
  unfold Session.send
  rcases hs : s.start text clock with ⟨taken, busy⟩
  rcases ht : t.start text clock with ⟨taken', busy'⟩
  rw [hs, ht] at hsame hbusy
  subst hsame
  cases taken' with
  | false => exact .ended rfl hbusy
  | true => exact hbusy.finish hR clock

/-! ## Everything else -/

theorem editActive (h : Alike R s t) (edit : Building → Building) :
    Alike R (s.editActive edit) (t.editActive edit) := by
  unfold Session.editActive
  rw [h.collection_eq]
  split
  · exact h
  · exact h.commit hR _

theorem switchTo (h : Alike R s t) (id : String) : Alike R (s.switchTo id) (t.switchTo id) := by
  unfold Session.switchTo
  rw [h.collection_eq]
  split
  · exact h
  · exact h.commit hR _

theorem editStructure (h : Alike R s t) (edit : Building → Stamps → Building × Stamps)
    (clock : Clock) :
    (t.editStructure edit clock).1 = (s.editStructure edit clock).1 ∧
      Alike R (s.editStructure edit clock).2 (t.editStructure edit clock).2 := by
  obtain ⟨store, hstore, rfl⟩ := h.exists_onStore
  cases hactive : s.collection.active? with
  | none =>
    simp only [Session.editStructure, onStore, hactive]
    exact ⟨trivial, hstore, rfl, rfl, rfl, rfl⟩
  | some b =>
    have hdrawn : Alike R { s with stamps := (edit b s.stamps).2 }
        { s.onStore store with stamps := (edit b s.stamps).2 } := ⟨hstore, rfl, rfl, rfl, rfl⟩
    cases hsame : (edit b s.stamps).1 == b with
    | true =>
      simp only [Session.editStructure, onStore, hactive, hsame, ↓reduceIte]
      exact ⟨trivial, hdrawn⟩
    | false =>
      simp only [Session.editStructure, onStore, hactive, hsame, Bool.false_eq_true, ↓reduceIte]
      exact ⟨trivial, hdrawn.updateBuilding hR _ clock⟩

end Alike

end Session

/-! ## Actions -/

/-- Actions that are the same, but for the disks from which files are attached: what is at the path can be
    read from both and is the same, or from neither. -/
inductive Action.Like : Action → Action → Prop
  | refl (a : Action) : Like a a
  | uploadMap {disk disk' : Disk} (kind : ComponentKind) (floor component path : String)
      (h : (DataUri.read disk' path).toOption = (DataUri.read disk path).toOption) :
      Like (.operation (.uploadMap disk kind floor component path))
        (.operation (.uploadMap disk' kind floor component path))
  | uploadFixture {disk disk' : Disk} (floor restroom path : String)
      (h : (DataUri.read disk' path).toOption = (DataUri.read disk path).toOption) :
      Like (.operation (.uploadFixture disk floor restroom path))
        (.operation (.uploadFixture disk' floor restroom path))

/-- Steps that are the same in this way, at the same clock. -/
def StepsAlike (steps steps' : List (Action × Clock)) : Prop :=
  List.Forall₂ (fun x y => x.1.Like y.1 ∧ y.2 = x.2) steps steps'

namespace Session

variable {R : σ → τ → Prop} {s : Session σ} {t : Session τ} {clock : Clock}

theorem uploadMap_eq (s : Session σ) (disk : Disk) (kind : ComponentKind)
    (floor component path : String) :
    s.uploadMap disk kind floor component path
      = (DataUri.read disk path).toOption.elim s fun uri =>
          s.setMap kind floor component (some uri) := by
  unfold uploadMap
  cases DataUri.read disk path <;> rfl

theorem uploadFixture_eq (s : Session σ) (disk : Disk) (floor restroom path : String) :
    s.uploadFixture disk floor restroom path
      = (DataUri.read disk path).toOption.elim s fun uri =>
          s.setFixture floor restroom (some uri) := by
  unfold uploadFixture
  cases DataUri.read disk path <;> rfl

omit [BlobStore σ] [BlobStore τ] in
/-- Something is done with a file that is read from either disk alike. -/
theorem Alike.withFile (h : Alike R s t) {disk disk' : Disk} {path : String}
    {use : String → Session σ} {use' : String → Session τ}
    (hread : (DataUri.read disk' path).toOption = (DataUri.read disk path).toOption)
    (huse : ∀ uri, Alike R (use uri) (use' uri)) :
    Alike R ((DataUri.read disk path).toOption.elim s use)
      ((DataUri.read disk' path).toOption.elim t use') := by
  rw [hread]
  cases (DataUri.read disk path).toOption with
  | none => exact h
  | some uri => exact huse uri

variable (hR : BlobStore.Tracks R)

include hR

theorem Alike.uploadMap (h : Alike R s t) {disk disk' : Disk} (kind : ComponentKind)
    (floor component path : String)
    (hread : (DataUri.read disk' path).toOption = (DataUri.read disk path).toOption) :
    Alike R (s.uploadMap disk kind floor component path)
      (t.uploadMap disk' kind floor component path) := by
  rw [uploadMap_eq, uploadMap_eq]
  exact h.withFile hread fun uri => h.editActive hR _

theorem Alike.uploadFixture (h : Alike R s t) {disk disk' : Disk} (floor restroom path : String)
    (hread : (DataUri.read disk' path).toOption = (DataUri.read disk path).toOption) :
    Alike R (s.uploadFixture disk floor restroom path)
      (t.uploadFixture disk' floor restroom path) := by
  rw [uploadFixture_eq, uploadFixture_eq]
  exact h.withFile hread fun uri => h.editActive hR _

omit [BlobStore σ] [BlobStore τ] hR in
/-- Answers of the one kind that an operation gives. -/
theorem Matches.map {α β ε : Type} {r : Except ε (α × Session σ)} {r' : Except ε (α × Session τ)}
    (h : Matches Eq R r r') (f : α → β) :
    Matches Eq R (r.map (·.map f id)) (r'.map (·.map f id)) := by
  cases h with
  | ended hanswers h =>
    subst hanswers
    exact .ended rfl h
  | stopped reason => exact .stopped reason

omit [BlobStore σ] [BlobStore τ] hR in
/-- Less may be said of the stores. -/
theorem Matches.imp {α β ε : Type} {E : α → β → Prop} {R' : σ → τ → Prop}
    {r : Except ε (α × Session σ)} {r' : Except ε (β × Session τ)} (h : Matches E R r r')
    (himp : ∀ store other, R store other → R' store other) : Matches E R' r r' := by
  cases h with
  | ended hanswers h => exact .ended hanswers { h with stores := himp _ _ h.stores }
  | stopped reason => exact .stopped reason

/-- **An action is carried out alike** in sessions that are alike. -/
theorem Alike.enact (h : Alike R s t) (a : Action) (clock : Clock) :
    Matches Eq R (s.enact a clock) (t.enact a clock) := by
  cases a with
  | revise r =>
    obtain ⟨hsame, hnext⟩ := h.editStructure hR r.change clock
    exact .ended (congrArg Answer.flag hsame.symm) hnext
  | operation op =>
    cases op with
    | start text =>
      obtain ⟨hsame, hnext⟩ := h.start hR text clock
      exact .ended (congrArg Answer.flag hsame.symm) hnext
    | finish => exact (h.finish hR clock).map Answer.reply
    | send text => exact (h.send hR text clock).map Answer.reply
    | setMap kind floor component map => exact .ended rfl (h.editActive hR _)
    | setFixture floor restroom fixture => exact .ended rfl (h.editActive hR _)
    | uploadMap disk kind floor component path =>
      exact .ended rfl (h.uploadMap hR kind floor component path rfl)
    | uploadFixture disk floor restroom path =>
      exact .ended rfl (h.uploadFixture hR floor restroom path rfl)
    | edit e =>
      obtain ⟨hsame, hnext⟩ := h.editStructure hR (e.applyTo · clock ·) clock
      exact .ended (congrArg Answer.flag hsame.symm) hnext
    | update b => exact .ended rfl (h.updateBuilding hR b clock)
    | switchTo id => exact .ended rfl (h.switchTo hR id)
    | clear => exact .ended rfl (h.clear hR clock)

theorem Alike.enact_like (h : Alike R s t) {a a' : Action} (hlike : a.Like a') (clock : Clock) :
    Matches Eq R (s.enact a clock) (t.enact a' clock) := by
  cases hlike with
  | refl => exact h.enact hR a clock
  | uploadMap kind floor component path hread =>
    exact .ended rfl (h.uploadMap hR kind floor component path hread)
  | uploadFixture floor restroom path hread =>
    exact .ended rfl (h.uploadFixture hR floor restroom path hread)

theorem Alike.act (h : Alike R s t) {a a' : Action} (hlike : a.Like a') (clock : Clock) :
    Matches Eq R (s.act a clock) (t.act a' clock) := by
  have hmatches := h.enact_like hR hlike clock
  unfold Session.act
  generalize s.enact a clock = r at hmatches ⊢
  generalize t.enact a' clock = r' at hmatches ⊢
  cases hmatches with
  | stopped fault => exact .stopped _
  | ended hanswers hnext =>
    subst hanswers
    simp only
    rw [hnext.collection_eq]
    split
    · exact .ended rfl hnext
    · exact .stopped _

/-- The answers of two courses of actions are the same. -/
def SameAnswers (events events' : List (Action × Answer)) : Prop :=
  events'.map (·.2) = events.map (·.2)

/-- **A course of actions goes alike** in sessions that are alike. -/
theorem Alike.actAll (h : Alike R s t) {steps steps' : List (Action × Clock)}
    (hsteps : StepsAlike steps steps') :
    Matches SameAnswers R (s.actAll steps) (t.actAll steps') := by
  induction hsteps generalizing s t with
  | nil => exact .ended rfl h
  | @cons x y steps steps' hxy _ ih =>
    obtain ⟨a, clock⟩ := x
    obtain ⟨a', clock'⟩ := y
    obtain ⟨hlike, hclock⟩ := hxy
    simp only at hlike hclock
    subst hclock
    have hfirst := h.act hR hlike clock'
    simp only [Session.actAll]
    generalize s.act a clock' = r at hfirst ⊢
    generalize t.act a' clock' = r' at hfirst ⊢
    cases hfirst with
    | stopped reason => exact .stopped reason
    | @ended answer answer' next next' hanswers hnext =>
      subst hanswers
      have hrest := ih hnext
      simp only
      generalize next.actAll steps = r at hrest ⊢
      generalize next'.actAll steps' = r' at hrest ⊢
      cases hrest with
      | stopped reason => exact .stopped reason
      | ended hanswers h => exact .ended (by simpa [SameAnswers] using hanswers) h

end Session

/-! ## Stores in memory, in a directory, and out of order -/

/-- The stores hold the same text, or none, under each key of a session. -/
def SameTexts (store : σ) (other : τ) : Prop :=
  ∀ key ∈ sessionKeys, ∃ found,
    BlobStore.get store key = .ok found ∧ BlobStore.get other key = .ok found

theorem FileStore.Fresh.tracks {f : FileStore} (h : f.Fresh) :
    BlobStore.Tracks (FileStore.Agrees f) :=
  ⟨fun hagrees _ hkey text => hagrees.set h hkey text, fun hagrees _ hkey => hagrees.remove h hkey⟩

theorem BlobStore.tracks_any : BlobStore.Tracks fun (_ : σ) (_ : τ) => True :=
  ⟨fun _ _ _ _ => trivial, fun _ _ _ => trivial⟩

namespace Session

/-- Sessions are restored alike from stores in which nothing is to be found. -/
theorem alike_restore {R : σ → τ → Prop} {store : σ} {other : τ} (hstores : R store other)
    (hstore : ∀ key ∈ sessionKeys, ∀ text, BlobStore.get store key ≠ .ok (some text))
    (hother : ∀ key ∈ sessionKeys, ∀ text, BlobStore.get other key ≠ .ok (some text))
    (opened : Clock) : Alike R (restore store opened) (restore other opened) := by
  have hload : ∀ key ∈ sessionKeys, ∀ {α : Type} [Saved α] (default : α),
      Saved.loadOr other key default = Saved.loadOr store key default := by
    intro key hkey α _ default
    rw [Saved.loadOr_of_get_ne (hother key hkey), Saved.loadOr_of_get_ne (hstore key hkey)]
  exact ⟨hstores, hload _ (by decide) _, hload _ (by decide) _, rfl, rfl⟩

/-- **A session does not depend on where it is stored.** With an empty store in memory, with one in a
    directory that does not exist yet and with one that cannot be read, a course of actions is given the
    same answers and leads to the same collection, transcript and line that is being answered; and in
    memory and in the directory there are the same texts. A course may end after any of its steps, so
    this is so after each of them. Of each file that is attached, the three sessions have to find the
    same or nothing at its path. -/
theorem restored_alike {f : FileStore} {broken : σ} (hfresh : f.Fresh)
    (hbroken : ∀ key, ∃ e, BlobStore.get broken key = .error e) (opened : Clock)
    {steps onFile onBroken : List (Action × Clock)} (hfile : StepsAlike steps onFile)
    (hother : StepsAlike steps onBroken) :
    Matches SameAnswers SameTexts ((restore ({} : MemoryStore) opened).actAll steps)
        ((restore f opened).actAll onFile) ∧
      Matches SameAnswers (fun _ _ => True) ((restore ({} : MemoryStore) opened).actAll steps)
        ((restore broken opened).actAll onBroken) := by
  have hempty : ∀ key ∈ sessionKeys, ∀ text,
      BlobStore.get ({} : MemoryStore) key ≠ .ok (some text) := by
    intro key _ text h
    cases h
  constructor
  · have hstart : Alike (FileStore.Agrees f) (restore ({} : MemoryStore) opened)
        (restore f opened) := by
      refine alike_restore (.unused fun _ _ => rfl) hempty ?_ opened
      intro key hkey text h
      simp only [BlobStore.get, (hfresh.missing hkey).1] at h
      cases h
    exact (hstart.actAll hfresh.tracks hfile).imp fun _ _ hagrees _ => hagrees.get_eq hfresh
  · have hstart : Alike (fun _ _ => True) (restore ({} : MemoryStore) opened)
        (restore broken opened) := by
      refine alike_restore trivial hempty ?_ opened
      intro key _ text h
      obtain ⟨e, he⟩ := hbroken key
      rw [he] at h
      cases h
    exact hstart.actAll BlobStore.tracks_any hother

/-- A store in a directory of which not even the parent exists. -/
def nested : FileStore := ⟨"data/nested", Disk.empty⟩

/-- A picture in the working directory. -/
def pictured : Disk := Disk.empty.put ["work".toList, "plan.png".toList] (.file "pixels".toUTF8)

/-- The same with the parent of the directory beside it. -/
def picturedBeside : Disk := pictured.put ["work".toList, "data".toList] .directory

/-- Everything is forgotten while a line waits. Then a building is made, and its restroom is given a map
    that is in a file, while the clock goes back. -/
def furnished (disk : Disk) : List (Action × Clock) :=
  [(.operation (.start "hello"), .still 1000),
   (.operation .clear, .still 7),
   (.operation (.send "create A with 1 floor, 1 restroom"), .still 990),
   (.operation (.uploadMap disk .restroom "building-1002-floor-1"
      "building-1002-floor-1-restroom-1" "plan.png"), .still 990),
   (.operation (.start "add 1 floor"), .still 990),
   (.operation .finish, .still 990)]

/-- Does a restroom have a map? -/
def mapped (c : Collection) : Bool :=
  c.buildings.any fun b => b.floors.any fun f => f.restrooms.any fun r => r.map.isSome

theorem furnished_alike : StepsAlike (furnished pictured) (furnished picturedBeside) :=
  .cons ⟨.refl _, rfl⟩ <| .cons ⟨.refl _, rfl⟩ <| .cons ⟨.refl _, rfl⟩ <|
    .cons ⟨.uploadMap _ _ _ _ (by decide +kernel), rfl⟩ <| .cons ⟨.refl _, rfl⟩ <|
      .cons ⟨.refl _, rfl⟩ .nil

set_option maxRecDepth 100000 in
theorem furnished_restored_alike :
    ∃ events s, (restore ({} : MemoryStore) (.still 1000)).actAll (furnished pictured)
        = .ok (events, s) ∧
      mapped s.collection ∧
      Matches SameAnswers SameTexts (.ok (events, s) : Except Stop _)
        ((restore nested (.still 1000)).actAll (furnished picturedBeside)) ∧
      Matches SameAnswers (fun _ _ => True) (.ok (events, s) : Except Stop _)
        ((restore (BrokenStore.mk) (.still 1000)).actAll (furnished picturedBeside)) := by
  obtain ⟨events, s, h, hmapped⟩ := exists_of_isOk (p := fun _ s => mapped s.collection)
    (r := (restore ({} : MemoryStore) (.still 1000)).actAll (furnished pictured))
    (by decide +kernel)
  have hfresh : nested.Fresh := by decide +kernel
  have hbroken : ∀ key, ∃ e, BlobStore.get BrokenStore.mk key = .error e := fun _ => ⟨_, rfl⟩
  obtain ⟨hfile, hother⟩ :=
    restored_alike hfresh hbroken (.still 1000) furnished_alike furnished_alike
  rw [h] at hfile hother
  exact ⟨events, s, h, hmapped, hfile, hother⟩

/-- A line on which a building is made with a restroom. -/
def founding : Action := .operation (.send "create A with 1 floor, 1 restroom")

/-- The file in which the store in the directory keeps the buildings is attached to the restroom. -/
def attachOwnFile (s : Session σ) (disk : Disk) : Session σ :=
  s.uploadMap disk .restroom "building-1001-floor-1" "building-1001-floor-1-restroom-1"
    "data/nested/sitewise_buildings_data.json"

set_option maxRecDepth 100000 in
/-- Over the store in a directory a session can attach a file that the store has written; over the one in
    memory there is no such file. -/
theorem ownFile_differs :
    nested.Fresh ∧ ∃ answer s answer' t,
      (restore ({} : MemoryStore) (.still 1000)).act founding (.still 1000) = .ok (answer, s) ∧
      (restore nested (.still 1000)).act founding (.still 1000) = .ok (answer', t) ∧
      (s.attachOwnFile nested.disk).collection ≠ (t.attachOwnFile t.store.disk).collection := by
  obtain ⟨answer, s, hs, hmissing⟩ := exists_of_isOk
    (p := fun _ s => !mapped (s.attachOwnFile nested.disk).collection)
    (r := (restore ({} : MemoryStore) (.still 1000)).act founding (.still 1000)) (by decide +kernel)
  obtain ⟨answer', t, ht, hattached⟩ := exists_of_isOk
    (p := fun _ t => mapped (t.attachOwnFile t.store.disk).collection)
    (r := (restore nested (.still 1000)).act founding (.still 1000)) (by decide +kernel)
  refine ⟨by decide +kernel, answer, s, answer', t, hs, ht, ?_⟩
  intro heq
  rw [heq, hattached] at hmissing
  cases hmissing

end Session

end Floorplan
