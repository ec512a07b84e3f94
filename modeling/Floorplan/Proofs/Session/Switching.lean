import Floorplan.Proofs.Intent.Switch
import Floorplan.Proofs.Session.Names

set_option autoImplicit false

/-! # Switching to any of the buildings

Every building of a session has a name that a line of text gave it, so all that is known of such names is
known of it (`Session.run_named`). Whether "Switch to" with the name of a building behind it makes that
name active therefore depends on nothing but the name (`Session.reaches_iff`), and it does not for every
building (`Session.misled_unreachable`). -/

namespace Floorplan

variable {σ : Type} [BlobStore σ] {clock : Clock}

/-! ## Names are given by text -/

/-- All buildings have names that a line of text can have given them. -/
def Collection.Named (c : Collection) : Prop := ∀ b ∈ c.buildings, Intent.Nameable b.name

namespace Intent

variable {intent : Intent} {c : Collection} {s s' : Stamps} {b b' : Building} {o : Outcome}

/-- The reply tells the name that the active building is given. -/
theorem Turns.renamed?_eq {reply : Reply} (h : Turns clock b s intent b' reply s') :
    reply.renamed? = intent.givenName? := by
  cases h <;> rfl

theorem Effect.named (h : Effect c clock s intent o s')
    (hgiven : ∀ n, intent.givenName? = some n → Nameable n) (hc : c.Named) :
    (o.collection.getD c).Named := by
  cases h with
  | answered => exact hc
  | switched => exact hc
  | created _ _ hb =>
    subst hb
    intro x hx
    rcases List.mem_append.1 hx with hx | hx
    · exact hc x hx
    · rw [List.mem_singleton.1 hx]
      exact hgiven _ rfl
  | @turned _ b b' reply _ hb hturns =>
    intro x hx
    obtain ⟨y, hy, rfl⟩ := List.mem_map.1 hx
    split
    · rw [hturns.name_eq, hturns.renamed?_eq]
      cases hname : intent.givenName? with
      | none => exact hc b (Collection.mem_of_active? hb)
      | some n => exact hgiven n hname
    · exact hc y hy

end Intent

theorem dispatch_named {c : Collection} {text : String} {s s' : Stamps} {o : Outcome}
    (h : dispatch c text clock s = .ok (o, s')) (hc : c.Named) : (o.collection.getD c).Named := by
  unfold dispatch at h
  split at h
  · rename_i hparse
    exact (Intent.apply_effect h).named (fun _ => Intent.parse?_nameable hparse) hc
  · cases h
    exact hc

namespace Session

variable {s s' : Session σ}

omit [BlobStore σ] in
theorem Talks.named {reply : Option Reply} (h : Talks clock s reply s') (hs : s.collection.Named) :
    s'.collection.Named := by
  cases h with
  | silent hc =>
    rw [hc]
    exact hs
  | answered _ hdispatch _ hc =>
    rw [hc]
    exact dispatch_named hdispatch hs

/-- Whatever lines are put to a session that started on an empty store, it stays regular and its
    buildings have names that were given them by a line. -/
theorem run_named {store : σ} (hstore : BlobStore.get store buildingsKey = .ok none)
    (opening : Clock) {steps : List (Operation × Clock)} (hchat : ∀ x ∈ steps, x.1.isChat) :
    Ends (fun s : Session σ => s.Regular ∧ s.collection.Named) (· = .tooManyFloors)
      ((restore store opening).run steps) := by
  refine run_ends (fun x hx s hs => ?_) ⟨regular_restore hstore opening, ?_⟩
  · have hstep := hs.1.step (hchat x hx) x.2
    cases hnext : s.step x.1 x.2 with
    | error stop =>
      rw [hnext] at hstep
      exact hstep
    | ok next =>
      rw [hnext] at hstep
      exact ⟨hstep, (talks_step (hchat x hx) hnext).1.named hs.2⟩
  · rw [collection_restore hstore]
    simp [Collection.Named, Collection.empty]

/-- **When the name of a building reaches it.** Lines of text are put to a session that started on an
    empty store, whatever the clock does. "Switch to" with the name of any of its buildings behind it
    makes a building of that name active if and only if the name does not begin with the word
    "building" and white space. -/
theorem reaches_iff {store : σ} (hstore : BlobStore.get store buildingsKey = .ok none)
    (opening : Clock) {steps : List (Operation × Clock)} (hchat : ∀ x ∈ steps, x.1.isChat)
    {answers : List Answer} (hrun : (restore store opening).run steps = .ok (answers, s)) :
    ∀ b ∈ s.collection.buildings, ∀ clock stamps,
      Intent.Reaches s.collection ("Switch to " ++ b.name) b.name clock stamps
        ↔ Intent.startsWithBuilding b.name.toList = false := by
  have hends := run_named hstore opening hchat
  rw [hrun] at hends
  obtain ⟨hregular, hnamed⟩ := hends
  intro b hb clock stamps
  exact Intent.reaches_switchTo_iff hregular.buildingIds.nodup hb (hnamed b hb) clock stamps

/-- Two buildings are made, and the second one is given another name. -/
def towerAndLodge : List (Operation × Clock) :=
  [(.send "create Tower with 1 floor, 1 restroom", .still 0),
   (.send "create Annex with 1 floor, 1 restroom", .still 0),
   (.send "change building name to Lodge", .still 0)]

set_option maxRecDepth 100000 in
theorem towerAndLodge_reached :
    ∃ answers s, (restore ({} : MemoryStore) (.still 0)).run towerAndLodge = .ok (answers, s) ∧
      s.collection.names = ["Tower", "Lodge"] ∧
      ∀ b ∈ s.collection.buildings,
        Intent.Reaches s.collection ("Switch to " ++ b.name) b.name (.still 0) s.stamps := by
  have hchat : ∀ x ∈ towerAndLodge, x.1.isChat := by simp [towerAndLodge, Operation.isChat]
  have hnames : ((restore ({} : MemoryStore) (.still 0)).run towerAndLodge).map
      (·.2.collection.names) = .ok ["Tower", "Lodge"] := by decide +kernel
  obtain ⟨⟨answers, s⟩, hrun, hnames⟩ := exists_of_map_eq_ok hnames
  refine ⟨answers, s, hrun, hnames, fun b hb => ?_⟩
  refine (reaches_iff rfl (.still 0) hchat hrun b hb _ _).2 ?_
  have hname : b.name ∈ ["Tower", "Lodge"] := hnames ▸ List.mem_map_of_mem hb
  simp only [List.mem_cons, List.not_mem_nil, or_false] at hname
  rcases hname with hname | hname <;>
    · rw [hname]
      decide

/-- A building is made with a name in quotes that begins with the word "building", and then another. -/
def misled : List (Operation × Clock) :=
  [(.send "create 'Building X' with 1 floor, 1 restroom", .still 1000),
   (.send "create Annex with 1 floor, 1 restroom", .still 1000)]

set_option maxRecDepth 100000 in
theorem misled_unreachable :
    (∀ x ∈ misled, x.1.isChat) ∧
      ¬ ∀ answers s, (restore ({} : MemoryStore) (.still 1000)).run misled = .ok (answers, s) →
        ∀ b ∈ s.collection.buildings,
          Intent.Reaches s.collection ("Switch to " ++ b.name) b.name (.still 1000) s.stamps := by
  refine ⟨by simp [misled, Operation.isChat], fun hall => ?_⟩
  have hlost : ((restore ({} : MemoryStore) (.still 1000)).run misled).map (fun r =>
      r.2.collection.buildings.all fun b =>
        (dispatch r.2.collection ("Switch to " ++ b.name) (.still 1000) r.2.stamps).toOption.any
          (·.1.collection.isSome)) = .ok false := by decide +kernel
  obtain ⟨⟨answers, s⟩, hrun, hlost⟩ := exists_of_map_eq_ok hlost
  obtain ⟨b, hb, hnone⟩ := List.all_eq_false.1 hlost
  obtain ⟨o, stamps', c', x, hdispatch, hc', -⟩ := hall answers s hrun b hb
  rw [hdispatch] at hnone
  simp [Except.toOption, hc'] at hnone

end Session

end Floorplan
