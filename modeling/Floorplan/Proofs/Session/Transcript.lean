import Floorplan.Proofs.Session.Action

set_option autoImplicit false

/-! # What the transcript accounts for

The transcript of a session is only ever added to, or begun anew. What was added is what the actions
said: a line that was taken up, a reply, a confirmation (`Session.actAll_accounts`). Every line is
answered by one reply, but for the one that is still waiting.

`Session.Appends` is the step: what was said between two sessions, under ids that are later and later
stamps. It is transitive, so it holds along a course of actions back to where the transcript began. -/

namespace Floorplan

/-! ## Counting what was said -/

namespace Action

/-- Is the action answered by a reply to a line? -/
def replies : Action → Answer → Bool
  | operation .finish, .reply (some _) => true
  | operation (.send _), .reply (some _) => true
  | _, _ => false

/-- Does the action put a building in the place of another? -/
def replaces : Action → Answer → Bool
  | operation (.edit _), .flag true => true
  | operation (.update _), _ => true
  | revise _, .flag true => true
  | _, _ => false

end Action

/-- The messages that a course of actions adds to the transcript. -/
def entriesOf (events : List (Action × Answer)) : List (Sender × String) :=
  events.flatMap fun e => e.1.entries e.2

/-- How many replies were given to lines. -/
def replyCount (events : List (Action × Answer)) : Nat := events.countP fun e => e.1.replies e.2

/-- How many times a building was put in the place of another. -/
def replaceCount (events : List (Action × Answer)) : Nat := events.countP fun e => e.1.replaces e.2

/-- How many messages have a sender. -/
def saidBy (sender : Sender) (entries : List (Sender × String)) : Nat :=
  entries.countP fun e => e.1 = sender

/-- What was done after the transcript was begun anew for the last time. -/
def sinceCleared (events : List (Action × Answer)) : List (Action × Answer) :=
  (events.reverse.takeWhile fun e => !e.1.clears).reverse

/-- Was the transcript begun anew? -/
def cleared (events : List (Action × Answer)) : Bool := events.any fun e => e.1.clears

theorem cleared_append (events : List (Action × Answer)) (e : Action × Answer) :
    cleared (events ++ [e]) = (cleared events || e.1.clears) := by
  rw [cleared, List.any_append, List.any_cons, List.any_nil, Bool.or_false, ← cleared]

theorem sinceCleared_append {events : List (Action × Answer)} {e : Action × Answer} :
    sinceCleared (events ++ [e]) = if e.1.clears then [] else sinceCleared events ++ [e] := by
  cases h : e.1.clears <;> simp [sinceCleared, h]

/-- The assistant says every reply, and confirms every replacement. -/
theorem saidBy_assistant_entries (a : Action) (answer : Answer) :
    saidBy .assistant (a.entries answer) =
      (a.replies answer).toNat + (a.replaces answer).toNat := by
  unfold Action.entries Action.replies Action.replaces
  split <;> simp_all [saidBy, Action.confirmation]

theorem saidBy_append (sender : Sender) (entries more : List (Sender × String)) :
    saidBy sender (entries ++ more) = saidBy sender entries + saidBy sender more :=
  List.countP_append

theorem entriesOf_append (events more : List (Action × Answer)) :
    entriesOf (events ++ more) = entriesOf events ++ entriesOf more := List.flatMap_append

theorem replyCount_append (events more : List (Action × Answer)) :
    replyCount (events ++ more) = replyCount events + replyCount more := List.countP_append

theorem replyCount_singleton (e : Action × Answer) :
    replyCount [e] = (e.1.replies e.2).toNat := by
  cases h : e.1.replies e.2 <;> simp [replyCount, h]

theorem replaceCount_singleton (e : Action × Answer) :
    replaceCount [e] = (e.1.replaces e.2).toNat := by
  cases h : e.1.replaces e.2 <;> simp [replaceCount, h]

theorem entriesOf_singleton (e : Action × Answer) : entriesOf [e] = e.1.entries e.2 :=
  List.flatMap_singleton ..

/-- **The assistant's messages** are the replies and the confirmations. -/
theorem saidBy_assistant_entriesOf (events : List (Action × Answer)) :
    saidBy .assistant (entriesOf events) = replyCount events + replaceCount events := by
  induction events with
  | nil => rfl
  | cons e events ih =>
    have hfirst : saidBy .assistant (entriesOf [e]) = replyCount [e] + replaceCount [e] := by
      rw [entriesOf_singleton, replyCount_singleton, replaceCount_singleton,
        saidBy_assistant_entries]
    have hreplaces : replaceCount ([e] ++ events) = replaceCount [e] + replaceCount events :=
      List.countP_append
    rw [← List.singleton_append, entriesOf_append, saidBy_append, replyCount_append, hreplaces,
      hfirst, ih]
    omega

/-! ## Messages under stamps -/

/-- The ids of the messages are increasing stamps, after one and up to another. -/
def Stamped (low high : Nat) (added : List Message) : Prop :=
  ∃ stamps : List Nat, added.map (·.id) = stamps.map toString ∧ stamps.Pairwise (· < ·) ∧
    ∀ n ∈ stamps, low < n ∧ n ≤ high

namespace Stamped

variable {low mid high : Nat} {added more : List Message}

theorem nil (low high : Nat) : Stamped low high [] := ⟨[], rfl, .nil, by simp⟩

theorem append (h : Stamped low mid added) (h' : Stamped mid high more) (hlow : low ≤ mid)
    (hhigh : mid ≤ high) : Stamped low high (added ++ more) := by
  obtain ⟨stamps, hids, hincreasing, hbounds⟩ := h
  obtain ⟨stamps', hids', hincreasing', hbounds'⟩ := h'
  refine ⟨stamps ++ stamps', by rw [List.map_append, List.map_append, hids, hids'], ?_, ?_⟩
  · refine List.pairwise_append.2 ⟨hincreasing, hincreasing', fun m hm n hn => ?_⟩
    exact (hbounds m hm).2.trans_lt (hbounds' n hn).1
  · intro n hn
    rcases List.mem_append.1 hn with hn | hn
    · exact ⟨(hbounds n hn).1, (hbounds n hn).2.trans hhigh⟩
    · exact ⟨hlow.trans_lt (hbounds' n hn).1, (hbounds' n hn).2⟩

end Stamped

namespace Session

variable {σ : Type}

/-! ## What was said between two sessions -/

/-- What was said between two sessions, in order. -/
structure Appends (entries : List (Sender × String)) (s s' : Session σ) : Prop where
  last_le : s.stamps.last ≤ s'.stamps.last
  added : ∃ added : List Message, s'.messages = s.messages ++ added ∧
    added.map (fun m => (m.sender, m.content)) = entries ∧
    Stamped s.stamps.last s'.stamps.last added

variable {clock : Clock} {s s' s'' : Session σ} {entries more : List (Sender × String)}

namespace Appends

/-- Nothing was said, whatever else has changed. -/
theorem silent (hle : s.stamps.last ≤ s'.stamps.last) (hsame : s'.messages = s.messages) :
    Appends [] s s' :=
  ⟨hle, [], by rw [hsame, List.append_nil], rfl, .nil _ _⟩

theorem trans (h : Appends entries s s') (h' : Appends more s' s'') :
    Appends (entries ++ more) s s'' := by
  obtain ⟨hle, added, hmessages, hentries, hstamped⟩ := h
  obtain ⟨hle', added', hmessages', hentries', hstamped'⟩ := h'
  refine ⟨hle.trans hle', added ++ added', ?_, ?_, hstamped.append hstamped' hle hle'⟩
  · rw [hmessages', hmessages, List.append_assoc]
  · rw [List.map_append, hentries, hentries']

theorem push [BlobStore σ] (s : Session σ) (sender : Sender) (content : String) (clock : Clock) :
    Appends [(sender, content)] s (s.push sender content clock) := by
  have hlt := s.stamps.last_lt_next clock
  refine ⟨hlt.le, _, rfl, rfl, [(s.stamps.next clock).1], rfl, List.pairwise_singleton .., ?_⟩
  intro n hn
  rw [List.mem_singleton.1 hn]
  exact ⟨hlt, le_rfl⟩

theorem prefix_messages (h : Appends entries s s') : s.messages <+: s'.messages := by
  obtain ⟨added, hmessages, -⟩ := h.added
  exact ⟨added, hmessages.symm⟩

end Appends

variable [BlobStore σ]

theorem appends_taken (s : Session σ) (text : String) (clock : Clock) :
    Appends [(.user, text)] s (s.taken text clock) := by
  obtain ⟨hle, hadded⟩ := Appends.push s .user text clock
  exact ⟨hle, hadded⟩

theorem appends_answered {stamps : Stamps} (hle : s.stamps.last ≤ stamps.last) (o : Outcome)
    (clock : Clock) : Appends [(.assistant, o.reply.message)] s (s.answered o stamps clock) := by
  have hsilent : Appends [] s
      (o.collection.elim { s with pending := none, stamps }
        (commit { s with pending := none, stamps })) := by
    cases o.collection <;> exact .silent hle rfl
  exact hsilent.trans (.push _ .assistant o.reply.message clock)

/-- **What an action says** is appended to the transcript, unless it begins it anew. -/
theorem Outturn.appends {a : Action} {answer : Answer} (h : Outturn clock s a answer s')
    (hclears : a.clears = false) : Appends (a.entries answer) s s' := by
  cases h with
  | kept hentries _ hle =>
    rw [hentries]
    exact .silent hle rfl
  | taken => exact appends_taken s _ clock
  | answered _ hdispatch => exact appends_answered (dispatch_last_le hdispatch) _ clock
  | sent _ hdispatch =>
    exact (appends_taken s _ clock).trans (appends_answered (dispatch_last_le hdispatch) _ clock)
  | attached hentries =>
    rw [hentries]
    exact .silent le_rfl rfl
  | @replaced _ _ b stamps hyields =>
    rw [hyields.entries_eq]
    have hsilent : Appends [] s
        (commit { s with stamps } (s.collection.withBuilding b.synced)) :=
      .silent hyields.last_le rfl
    exact hsilent.trans (.push _ .assistant _ clock)
  | cleared => cases hclears

/-! ## Lines that wait for an answer -/

/-- The number of lines that wait for an answer. -/
def waiting (s : Session σ) : Nat := if s.isProcessing then 1 else 0

omit [BlobStore σ] in
theorem waiting_of_none (h : s.pending = none) : s.waiting = 0 := by
  simp [waiting, isProcessing, h]

omit [BlobStore σ] in
theorem waiting_of_some {text : String} (h : s.pending = some text) : s.waiting = 1 := by
  simp [waiting, isProcessing, h]

theorem pending_answered (s : Session σ) (o : Outcome) (stamps : Stamps) (clock : Clock) :
    (s.answered o stamps clock).pending = none := by
  unfold answered
  cases o.collection <;> rfl

theorem replies_of_entries {a : Action} {answer : Answer} (h : a.entries answer = []) :
    a.replies answer = false := by
  unfold Action.entries at h
  unfold Action.replies
  split <;> simp_all

/-- **Every line is answered by one reply**, but for the one that waits. -/
theorem Outturn.waiting_eq {a : Action} {answer : Answer} (h : Outturn clock s a answer s')
    (hclears : a.clears = false) :
    s.waiting + saidBy .user (a.entries answer) = (a.replies answer).toNat + s'.waiting := by
  cases h with
  | kept hentries =>
    rw [hentries, replies_of_entries hentries]
    exact (Nat.zero_add _).symm
  | taken hidle =>
    rw [waiting_of_none hidle, waiting_of_some (s := s.taken _ clock) rfl]
    rfl
  | answered hpending =>
    rw [waiting_of_some hpending, waiting_of_none (s.pending_answered _ _ clock)]
    rfl
  | sent hidle =>
    rw [waiting_of_none hidle, waiting_of_none (pending_answered _ _ _ clock)]
    rfl
  | attached hentries =>
    rw [hentries, replies_of_entries hentries]
    exact (Nat.zero_add _).symm
  | replaced hyields =>
    have hreplies : a.replies answer = false := by
      cases hyields <;> rfl
    rw [hyields.entries_eq, hreplies]
    exact (Nat.zero_add _).symm
  | cleared => cases hclears

/-! ## Courses of actions -/

/-- A session goes on from another, from which on nothing was begun anew. -/
structure Continues (first : Session σ) (events : List (Action × Answer)) (s : Session σ) :
    Prop where
  appends : Appends (entriesOf events) first s
  waiting_eq : first.waiting + saidBy .user (entriesOf events) = replyCount events + s.waiting

namespace Continues

variable {first : Session σ} {events : List (Action × Answer)}

omit [BlobStore σ] in
theorem refl (s : Session σ) : Continues s [] s := ⟨.silent le_rfl rfl, (Nat.zero_add _).symm⟩

theorem step {a : Action} {answer : Answer} (h : Continues first events s)
    (houtturn : Outturn clock s a answer s') (hclears : a.clears = false) :
    Continues first (events ++ [(a, answer)]) s' := by
  have hentries : entriesOf (events ++ [(a, answer)]) = entriesOf events ++ a.entries answer := by
    rw [entriesOf_append, entriesOf_singleton]
  have hreplies : replyCount (events ++ [(a, answer)])
      = replyCount events + (a.replies answer).toNat := by
    rw [replyCount_append, replyCount_singleton]
  refine ⟨?_, ?_⟩
  · rw [hentries]
    exact h.appends.trans (houtturn.appends hclears)
  · have hbefore := h.waiting_eq
    have hnow := houtturn.waiting_eq hclears
    rw [hentries, saidBy_append, hreplies]
    omega

end Continues

/-- The session from which on a transcript was only added to: the one at the start, or one whose
    transcript is the welcome message. -/
def BeginsAt (start : Session σ) (events : List (Action × Answer)) (first : Session σ) : Prop :=
  if cleared events then first.waiting = 0 ∧ ∃ now, first.messages = welcomeMessages now
  else first = start

/-- **A course of actions goes on from where the transcript began**, in whatever session it starts. -/
theorem actAll_continues {start : Session σ} {steps : List (Action × Clock)}
    {events : List (Action × Answer)} (h : start.actAll steps = .ok (events, s)) :
    ∃ first, BeginsAt start events first ∧ Continues first (sinceCleared events) s := by
  have hstart : ∃ first, BeginsAt start [] first ∧ Continues first (sinceCleared []) start :=
    ⟨start, rfl, .refl start⟩
  refine actAll_induction (p := fun events s =>
    ∃ first, BeginsAt start events first ∧ Continues first (sinceCleared events) s)
    ?_ hstart h
  rintro ⟨a, clock⟩ - past s answer s' ⟨first, hbegins, hcontinues⟩ houtturn -
  rw [sinceCleared_append]
  cases hclears : a.clears with
  | false =>
    refine ⟨first, ?_, hcontinues.step houtturn hclears⟩
    unfold BeginsAt
    rw [cleared_append, hclears, Bool.or_false]
    exact hbegins
  | true =>
    have hanew : s'.waiting = 0 ∧ ∃ now, s'.messages = welcomeMessages now := by
      cases houtturn with
      | cleared => exact ⟨rfl, _, rfl⟩
      | kept _ hnot | attached _ hnot => rw [hclears] at hnot; cases hnot
      | replaced hyields => rw [hyields.clears_eq] at hclears; cases hclears
      | taken | answered | sent => cases hclears
    refine ⟨s', ?_, .refl s'⟩
    unfold BeginsAt
    rw [cleared_append, hclears, Bool.or_true]
    exact hanew

/-- What a transcript consists of after a course of actions: what it began with, which are the messages
    that were restored or the welcome message, and what was added since. -/
structure Accounts (restored : List Message) (events : List (Action × Answer)) (s : Session σ)
    (base added : List Message) : Prop where
  messages_eq : s.messages = base ++ added
  base_eq : if cleared events then ∃ now, base = welcomeMessages now else base = restored
  entries_eq : added.map (fun m => (m.sender, m.content)) = entriesOf (sinceCleared events)
  users_eq : added.countP (·.sender = .user) = replyCount (sinceCleared events) + s.waiting
  assistants_eq : added.countP (·.sender = .assistant)
    = replyCount (sinceCleared events) + replaceCount (sinceCleared events)
  ids_increasing : ∃ stamps : List Nat,
    added.map (·.id) = stamps.map toString ∧ stamps.Pairwise (· < ·)

/-- What is refused leaves a session as it was, up to stamps that may have been drawn. -/
structure Refuses (s : Session σ) (clock : Clock) : Prop where
  start_eq : ∀ text, (s.isProcessing ∨ Text.allBlank text) → s.start text clock = (false, s)
  send_eq : ∀ text, (s.isProcessing ∨ Text.allBlank text) → s.send text clock = .ok (none, s)
  finish_eq : ¬ s.isProcessing → s.finish clock = .ok (none, s)
  edit_eq : ∀ edit s', s.editStructure edit clock = (false, s') →
    s' = { s with stamps := s'.stamps }

theorem refuses (s : Session σ) (clock : Clock) : s.Refuses clock where
  start_eq text h := by
    have hrefused : (s.isProcessing || Text.allBlank text) = true := by simpa using h
    rw [start, if_pos hrefused]
  send_eq text h := by
    have hrefused : (s.isProcessing || Text.allBlank text) = true := by simpa using h
    rw [send, start, if_pos hrefused]
  finish_eq h := by
    have hidle : s.pending = none := by simpa [isProcessing] using h
    simp only [finish, hidle]
  edit_eq edit s' h := by
    cases hb : s.collection.active? with
    | none =>
      simp only [editStructure, hb] at h
      cases h
      rfl
    | some b =>
      simp only [editStructure, hb] at h
      split at h <;> cases h
      rfl

theorem saidBy_eq_countP {added : List Message} {entries : List (Sender × String)}
    (h : added.map (fun m => (m.sender, m.content)) = entries) (sender : Sender) :
    added.countP (·.sender = sender) = saidBy sender entries := by
  rw [← h, saidBy, List.countP_map]
  rfl

/-- **The transcript accounts for everything that was done.** It consists of what it began with and of
    what was said since: the lines and the replies to them, in order, and the confirmations. What it held
    once it holds later, unless it is begun anew; and what is refused leaves it as it is. -/
theorem actAll_accounts {store : σ} {opened : Clock} {steps : List (Action × Clock)}
    {events : List (Action × Answer)}
    (h : (restore store opened).actAll steps = .ok (events, s)) :
    (∃ base added, Accounts (restore store opened).messages events s base added) ∧
      (∀ later laterEvents s', s.actAll later = .ok (laterEvents, s') →
        cleared laterEvents = false → s.messages <+: s'.messages) ∧
      ∀ clock, s.Refuses clock := by
  refine ⟨?_, fun later laterEvents s' hlater hclears => ?_, s.refuses⟩
  · obtain ⟨first, hbegins, happends, hwaiting⟩ := actAll_continues h
    obtain ⟨added, hmessages, hentries, stamps, hids, hincreasing, -⟩ := happends.added
    -- Nothing waits for an answer where the transcript begins.
    obtain ⟨hbase, hidle⟩ : (if cleared events then ∃ now, first.messages = welcomeMessages now
        else first.messages = (restore store opened).messages) ∧ first.waiting = 0 := by
      unfold BeginsAt at hbegins
      cases hcleared : cleared events <;> rw [hcleared] at hbegins
      · subst hbegins
        exact ⟨rfl, rfl⟩
      · exact ⟨hbegins.2, hbegins.1⟩
    have husers := saidBy_eq_countP hentries .user
    have hassistants := saidBy_eq_countP hentries .assistant
    rw [saidBy_assistant_entriesOf] at hassistants
    exact ⟨first.messages, added, hmessages, hbase, hentries, by omega, hassistants,
      stamps, hids, hincreasing⟩
  · obtain ⟨first, hbegins, happends, -⟩ := actAll_continues hlater
    unfold BeginsAt at hbegins
    rw [hclears] at hbegins
    subst hbegins
    exact happends.prefix_messages

/-- A line is taken up and answered while the building is edited, and another one is forgotten with
    everything else. After that the clock has gone back. -/
def forgetful : List (Action × Clock) :=
  [(.operation (.start "create Tower with 2 floors"), .still 1000),
   (.operation (.edit .addFloor), .still 1000),
   (.operation (.start "list buildings"), .still 1000),
   (.operation .finish, .still 1000),
   (.revise (.ofEdit fun b => { b with name := "Hall" }), .still 990),
   (.operation (.start "list buildings"), .still 1001),
   (.operation .clear, .still 7),
   (.operation .finish, .still 7),
   (.operation (.send "hello"), .still 7),
   (.operation (.start "help"), .still 7)]

set_option maxRecDepth 100000 in
theorem forgetful_accounts :
    ∃ events s, (restore ({} : MemoryStore) (.still 1000)).actAll forgetful = .ok (events, s) ∧
      (∃ base added,
        Accounts (restore ({} : MemoryStore) (.still 1000)).messages events s base added) ∧
      (∀ later laterEvents s', s.actAll later = .ok (laterEvents, s') →
        cleared laterEvents = false → s.messages <+: s'.messages) ∧
      ∀ clock, s.Refuses clock := by
  obtain ⟨events, s, h, -⟩ := exists_of_isOk (p := fun _ _ => true)
    (r := (restore ({} : MemoryStore) (.still 1000)).actAll forgetful) (by decide +kernel)
  exact ⟨events, s, h, actAll_accounts h⟩

end Session

end Floorplan
