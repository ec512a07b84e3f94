import Floorplan.Proofs.Intent.WellFormed
import Floorplan.Proofs.Session.Run

set_option autoImplicit false

/-! # Sessions keep their collection well-formed

The invariant of a session that started on an empty store is that its collection is sound with the
stamps that it has drawn. Lines of text keep it because intents do, and layout keys because edits do;
attachments leave ids and numbers alone. Stamps that are drawn for messages only move the bound on.

The main result is `Session.run_wellFormed`: whatever is done with the session, in whatever order, its
collection is well-formed. -/

namespace Floorplan

variable {σ : Type} [BlobStore σ] {clock : Clock}

/-- The collection is sound with the stamps that have been drawn. -/
def Session.Sound (s : Session σ) : Prop := s.collection.Sound s.stamps.high

/-- Text that is taken for an intent or not leads to what intents lead to. -/
theorem dispatch_sound (hclock : clock.IsPast Intent.maxQuantity) {c : Collection}
    {stamps : Stamps} (hc : c.Sound stamps.high) (text : String) :
    ∃ o stamps', dispatch c text clock stamps = .ok (o, stamps') ∧
      ((o.collection.getD c).Fits →
        stamps.high ≤ stamps'.high ∧ (o.collection.getD c).Sound stamps'.high) := by
  unfold dispatch
  split
  · rename_i intent _
    obtain ⟨o, stamps', h⟩ := Intent.apply_ok_of_sound hc intent clock stamps
    refine ⟨o, stamps', h, fun hfits => Intent.apply_sound hclock hc h fun c' hc' => ?_⟩
    rw [hc'] at hfits
    exact hfits
  · exact ⟨_, _, rfl, fun _ => ⟨le_rfl, hc⟩⟩

namespace Session.Sound

variable {s : Session σ}

theorem restore {store : σ} (hstore : BlobStore.get store buildingsKey = .ok none) (clock : Clock) :
    (Session.restore store clock).Sound := by
  unfold Session.Sound
  rw [collection_restore hstore]
  exact .empty _

/-! ## Lines of text -/

theorem push (hclock : clock.IsPast Intent.maxQuantity) (h : s.Sound) (sender : Sender)
    (content : String) : (s.push sender content clock).Sound :=
  Collection.Sound.mono (Stamps.high_le_next hclock s.stamps) h

theorem start (hclock : clock.IsPast Intent.maxQuantity) (h : s.Sound) (text : String) :
    (s.start text clock).2.Sound := by
  unfold Session.start
  split
  · exact h
  · exact h.push hclock .user text

/-- Answering a line has an outcome, which keeps the session sound if the floors fit. -/
theorem finish (hclock : clock.IsPast Intent.maxQuantity) (h : s.Sound) :
    ∃ reply s', s.finish clock = .ok (reply, s') ∧ (s'.collection.Fits → s'.Sound) := by
  unfold Session.finish
  split
  · exact ⟨_, _, rfl, fun _ => h⟩
  · rename_i text _
    obtain ⟨⟨change, reply⟩, stamps, hdispatch, hsound⟩ := dispatch_sound hclock h text
    rw [hdispatch]
    refine ⟨_, _, rfl, fun hfits => ?_⟩
    cases change with
    | none => exact (hsound hfits).2.mono (Stamps.high_le_next hclock stamps)
    | some c => exact (hsound hfits).2.mono (Stamps.high_le_next hclock stamps)

theorem send (hclock : clock.IsPast Intent.maxQuantity) (h : s.Sound) (text : String) :
    ∃ reply s', s.send text clock = .ok (reply, s') ∧ (s'.collection.Fits → s'.Sound) := by
  have hbusy := h.start hclock text
  unfold Session.send
  split
  · rename_i busy hstart
    rw [hstart] at hbusy
    exact hbusy.finish hclock
  · rename_i same hstart
    rw [hstart] at hbusy
    exact ⟨_, _, rfl, fun _ => hbusy⟩

/-! ## Everything else -/

theorem editActive (h : s.Sound) {edit : Building → Building}
    (hedit : ∀ b : Building, b.Sound s.stamps.high → (edit b).Sound s.stamps.high) :
    (s.editActive edit).Sound := by
  unfold Session.editActive
  split
  · exact h
  · rename_i b hb
    have hactive := h.buildings b (Collection.mem_of_active? hb)
    exact Collection.Sound.withBuilding h le_rfl (hedit b hactive)

theorem setMap (h : s.Sound) (kind : ComponentKind) (floor component : String)
    (map : Option String) : (s.setMap kind floor component map).Sound := by
  refine h.editActive fun b hb => hb.mapFloor le_rfl fun f hf => ?_
  cases kind with
  | restroom => exact hf.mapRestroom component fun _ => rfl
  | corridor => exact hf.mapCorridor le_rfl component (fun _ _ => rfl) fun _ _ hlifts => hlifts

theorem setFixture (h : s.Sound) (floor restroom : String) (fixture : Option String) :
    (s.setFixture floor restroom fixture).Sound := by
  refine h.editActive fun b hb => hb.mapFloor le_rfl fun f hf => ?_
  exact hf.mapRestroom restroom fun _ => rfl

theorem uploadMap (h : s.Sound) (disk : Disk) (kind : ComponentKind)
    (floor component path : String) : (s.uploadMap disk kind floor component path).Sound := by
  unfold Session.uploadMap
  split
  · exact h.setMap kind floor component _
  · exact h

theorem uploadFixture (h : s.Sound) (disk : Disk) (floor restroom path : String) :
    (s.uploadFixture disk floor restroom path).Sound := by
  unfold Session.uploadFixture
  split
  · exact h.setFixture floor restroom _
  · exact h

theorem switchTo (h : s.Sound) (id : String) : (s.switchTo id).Sound := by
  unfold Session.switchTo
  split
  · exact h
  · rename_i b hb
    have hid : b.id = id := by simpa using List.find?_some hb
    rw [← hid]
    exact Collection.Sound.withActive h (List.mem_of_find?_eq_some hb)

theorem clear (s : Session σ) (clock : Clock) : (s.clear clock).Sound := .empty _

theorem edit (hclock : clock.IsPast Intent.maxQuantity) (h : s.Sound) (e : Edit)
    (hfits : (s.editStructure (e.applyTo · clock ·) clock).2.collection.Fits) :
    (s.editStructure (e.applyTo · clock ·) clock).2.Sound := by
  cases hb : s.collection.active? with
  | none =>
    simp only [Session.editStructure, hb]
    exact h
  | some b =>
    have hle := e.high_le_applyTo hclock b s.stamps
    simp only [Session.editStructure, hb] at hfits ⊢
    split at hfits
    · rename_i hsame
      -- An edit that changes nothing may have drawn stamps all the same.
      rw [if_pos hsame]
      exact Collection.Sound.mono hle h
    · rename_i hchanged
      rw [if_neg hchanged]
      have hactive := h.buildings b (Collection.mem_of_active? hb)
      have hmem : (e.applyTo b clock s.stamps).1.synced ∈
          (s.collection.withBuilding (e.applyTo b clock s.stamps).1.synced).buildings :=
        Collection.mem_withBuilding hb (e.id_applyTo b clock s.stamps)
      have hlength : (e.applyTo b clock s.stamps).1.floors.length < wordLimit :=
        hfits (e.applyTo b clock s.stamps).1.synced hmem
      have hedited := e.applyTo_sound hclock hactive hlength
      exact (Collection.Sound.withBuilding h hle hedited.synced).mono
        (Stamps.high_le_next hclock _)

/-! ## Runs -/

/-- **One operation keeps the session sound**, and has an outcome. -/
theorem step (hclock : clock.IsPast Intent.maxQuantity) (h : s.Sound) {op : Operation}
    (hop : op.replaces = false) :
    Ends Session.Sound (· = .tooManyFloors) (s.step op clock) := by
  obtain ⟨answer, s', hperform, hsound⟩ : ∃ answer s', s.perform op clock = .ok (answer, s') ∧
      (s'.collection.Fits → s'.Sound) := by
    cases op with
    | start text => exact ⟨_, _, rfl, fun _ => h.start hclock text⟩
    | finish =>
      obtain ⟨reply, s', hfinish, hsound⟩ := h.finish hclock
      exact ⟨.reply reply, s', by simp only [perform, hfinish]; rfl, hsound⟩
    | send text =>
      obtain ⟨reply, s', hsend, hsound⟩ := h.send hclock text
      exact ⟨.reply reply, s', by simp only [perform, hsend]; rfl, hsound⟩
    | setMap kind floor component map =>
      exact ⟨_, _, rfl, fun _ => h.setMap kind floor component map⟩
    | setFixture floor restroom fixture =>
      exact ⟨_, _, rfl, fun _ => h.setFixture floor restroom fixture⟩
    | uploadMap disk kind floor component path =>
      exact ⟨_, _, rfl, fun _ => h.uploadMap disk kind floor component path⟩
    | uploadFixture disk floor restroom path =>
      exact ⟨_, _, rfl, fun _ => h.uploadFixture disk floor restroom path⟩
    | edit e => exact ⟨_, _, rfl, h.edit hclock e⟩
    | update b => cases hop
    | switchTo id => exact ⟨_, _, rfl, fun _ => h.switchTo id⟩
    | clear => exact ⟨_, _, rfl, fun _ => clear s clock⟩
  simp only [Session.step, hperform]
  split
  · rename_i hfits
    exact hsound hfits
  · rfl

end Session.Sound

/-- Whatever is done with a session that started on an empty store, it stays sound. -/
theorem Session.run_sound {store : σ} (hstore : BlobStore.get store buildingsKey = .ok none)
    (opened : Clock) {steps : List (Operation × Clock)}
    (hclock : ∀ x ∈ steps, x.2.IsPast Intent.maxQuantity)
    (hops : ∀ x ∈ steps, x.1.replaces = false) :
    Ends Session.Sound (· = .tooManyFloors) ((Session.restore store opened).run steps) :=
  run_ends (fun x hx _ hs => hs.step (hclock x hx) (hops x hx)) (.restore hstore opened)

/-- **Whatever is done with a session that started on an empty store, its collection is
    well-formed.** Buildings are not replaced as a whole; the clock may stand still or go back, as
    long as it is past the counts that occur in ids. -/
theorem Session.run_wellFormed {store : σ} (hstore : BlobStore.get store buildingsKey = .ok none)
    (opened : Clock) {steps : List (Operation × Clock)}
    (hclock : ∀ x ∈ steps, x.2.IsPast Intent.maxQuantity)
    (hops : ∀ x ∈ steps, x.1.replaces = false) :
    Ends (·.collection.WellFormed) (· = .tooManyFloors)
      ((Session.restore store opened).run steps) := by
  have hsound := run_sound hstore opened hclock hops
  exact hsound.imp fun s hs => Collection.Sound.wellFormed hs

/-- A restroom is taken away and another one added, after the clock has gone back. -/
def Session.refurbished : List (Operation × Clock) :=
  [(.send "create Tower with 2 floors, 1 restroom", .still 90),
   (.edit .addFloor, .still 51),
   (.edit (.removeComponent .restroom "building-91-floor-1" "building-91-floor-1-restroom-1"),
     .still 60),
   (.edit (.addComponent .restroom "building-91-floor-1"), .still 60),
   (.switchTo "building-91", .still 60)]

set_option maxRecDepth 100000 in
theorem Session.refurbished_wellFormed :
    ((restore ({} : MemoryStore) (.still 90)).run refurbished).isOk ∧
    Ends (·.collection.WellFormed) (· = .tooManyFloors)
      ((restore ({} : MemoryStore) (.still 90)).run refurbished) := by
  refine ⟨by decide +kernel, run_wellFormed rfl (.still 90) ?_ (by decide)⟩
  simp [refurbished, Intent.maxQuantity]

end Floorplan
