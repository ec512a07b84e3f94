import Floorplan.Proofs.Session.Exchange
import Floorplan.Proofs.Session.WellFormed

set_option autoImplicit false

/-! # Every building has a floor

Floors are removed in two ways, from the top by their count and one at a time by its id, and either way
one of them stays. Making a building is different: it gets as many floors as are asked for, and none if
none are. So every building has a floor exactly as long as no building is made without one
(`Session.haveFloors_iff`), and there is one without in general (`Session.hollow_floorless`). -/

namespace Floorplan

variable {σ : Type} [BlobStore σ] {clock : Clock} {b b' : Building} {s s' : Stamps}

/-! ## Buildings -/

/-- The building has at least one floor. -/
def Building.HasFloor (b : Building) : Prop := 1 ≤ b.floors.length

instance (b : Building) : Decidable b.HasFloor := inferInstanceAs (Decidable (1 ≤ _))

namespace Building.HasFloor

theorem mono (h : b.HasFloor) (hle : b.floors.length ≤ b'.floors.length) : b'.HasFloor :=
  le_trans h hle

theorem of_floorNumbers (h : b.HasFloor) (hnumbers : b'.floorNumbers = b.floorNumbers) :
    b'.HasFloor :=
  h.mono (length_floors_eq hnumbers).ge

theorem mapFloor (h : b.HasFloor) (id : String) (edit : Floor → Floor) :
    (b.mapFloor id edit).HasFloor := by
  refine h.mono ?_
  rw [Building.mapFloor, List.length_map]

theorem mapNumbered (h : b.HasFloor) (number : Nat) (edit : Floor → Floor) :
    (b.mapNumbered number edit).HasFloor := by
  refine h.mono ?_
  rw [Building.mapNumbered, List.length_map]

theorem appendFloors (h : b.HasFloor) (count : Nat) (clock : Clock) (s : Stamps) :
    (b.appendFloors count clock s).1.HasFloor := by
  refine h.mono ?_
  rw [length_appendFloors]
  exact Nat.le_add_right ..

/-- Where ids are distinct, removing a floor by its id leaves one. -/
theorem removeFloor (h : b.HasFloor) (hids : (b.floors.map (·.id)).Nodup) (id : String) :
    (b.removeFloor id).HasFloor := by
  unfold Building.removeFloor
  split
  · exact h
  · rename_i hmany
    rw [HasFloor, synced, length_renumber]
    refine List.length_pos_iff.2 fun hgone => ?_
    -- If nothing were left, all floors would have the id, and there are several.
    have hsame : b.floors.map (·.id) = List.replicate b.floors.length id := by
      refine List.eq_replicate_iff.2 ⟨List.length_map _, ?_⟩
      simpa using List.filter_eq_nil_iff.1 hgone
    rw [hsame, List.nodup_replicate] at hids
    exact hmany hids

end Building.HasFloor

/-- Edits leave a building at least one floor. -/
theorem Edit.hasFloor_applyTo (e : Edit) (hids : (b.floors.map (·.id)).Nodup) (h : b.HasFloor)
    (clock : Clock) (s : Stamps) : (e.applyTo b clock s).1.HasFloor := by
  cases e with
  | addFloor => exact h.appendFloors 1 clock s
  | appendFloors count => exact h.appendFloors count clock s
  | removeFloor floor => exact h.removeFloor hids floor
  | addComponent kind floor =>
    simp only [applyTo, Building.addComponent]
    split
    · exact h
    · exact h.mapFloor floor _
  | removeComponent kind floor component => exact h.mapFloor floor _
  | addLift floor corridor => exact h.mapFloor floor _
  | removeLift floor corridor lift => exact h.mapFloor floor _
  | renameFloor floor name => exact h.mapFloor floor _
  | renameComponent kind floor component name => exact h.mapFloor floor _
  | renumber =>
    refine h.mono ?_
    rw [applyTo, length_renumber]
  | synced => exact h

/-! ## What intents do to floors -/

/-- How many floors a reply says that a new building has. -/
def Reply.createdFloors? : Reply → Option Nat
  | created _ floors _ _ _ _ => some floors
  | _ => none

namespace Intent

variable {intent : Intent} {c : Collection} {o : Outcome} {reply : Reply}

theorem Answered.createdFloors?_eq_none (h : Answered c intent reply) :
    reply.createdFloors? = none := by
  cases h <;> rfl

theorem Turns.createdFloors?_eq_none (h : Turns clock b s intent b' reply s') :
    reply.createdFloors? = none := by
  cases h <;> rfl

theorem hasFloor_growFloors {count : Option Nat} {said : List String} (hb : b.HasFloor)
    (h : growFloors b count clock s = ((b', said), s')) : b'.HasFloor := by
  unfold growFloors at h
  split at h
  · cases h
    exact hb
  · rename_i n _
    cases h
    exact hb.appendFloors n clock s

theorem hasFloor_growComponents {kind : ComponentKind} {count : Option Nat} {said : List String}
    (hb : b.HasFloor) (h : growComponents b kind count clock s = ((b', said), s')) : b'.HasFloor :=
  hb.of_floorNumbers (growComponents_numbers h).2.2

/-- Whatever an intent turns a building into has a floor if the building has one. -/
theorem Turns.hasFloor (h : Turns clock b s intent b' reply s') (hb : b.HasFloor) : b'.HasFloor := by
  cases h with
  | nameFloors names floors hfloors =>
    subst hfloors
    refine hb.of_floorNumbers (map_renamePositional ?_ b.floors names)
    exact fun _ _ => rfl
  | nameComponents kind floor names hf => exact hb.mapNumbered floor _
  | nameComponent kind floor index name => exact hb.mapNumbered floor _
  | nameFloor floor name => exact hb.mapNumbered floor _
  | nameBuilding name => exact hb
  | addFloors count => exact hb.appendFloors count clock s
  | addEverywhere kind count =>
    exact hb.of_floorNumbers (map_number_appendToEach kind count clock b.floors s)
  | addOnFloor kind count floor => exact hb.mapNumbered floor _
  | addMultiple counts hfloors hrestrooms hcorridors =>
    have htaller := hasFloor_growFloors hb hfloors
    exact hasFloor_growComponents (hasFloor_growComponents htaller hrestrooms) hcorridors
  | removeFloors count kept hpos hkept =>
    have hleft : kept.length = b.floors.length - min count (b.floors.length - 1) := by
      rw [hkept, List.length_take, List.length_mergeSort]
      omega
    rw [Building.HasFloor] at hb ⊢
    rw [Building.synced, length_renumber, hleft]
    omega

end Intent

/-! ## Collections -/

namespace Collection

variable {c c' : Collection}

/-- Every building has at least one floor. -/
def HaveFloors (c : Collection) : Prop := ∀ b ∈ c.buildings, b.HasFloor

instance (c : Collection) : Decidable c.HaveFloors :=
  inferInstanceAs (Decidable (∀ b ∈ c.buildings, b.HasFloor))

theorem HaveFloors.withBuilding (h : c.HaveFloors) (hb : b.HasFloor) :
    (c.withBuilding b).HaveFloors := by
  intro x hx
  obtain ⟨old, hold, rfl⟩ := List.mem_map.1 hx
  split
  · exact hb
  · exact h old hold

theorem HaveFloors.withNewActive_iff (h : c.HaveFloors) :
    (c.withNewActive b).HaveFloors ↔ b.HasFloor := by
  simp only [HaveFloors, withNewActive, List.forall_mem_append, List.forall_mem_singleton]
  exact and_iff_right h

theorem NumberedAs.haveFloors (h : c.NumberedAs c') (hc : c.HaveFloors) : c'.HaveFloors := by
  intro b' hb'
  obtain ⟨b, hb, -, hnumbers⟩ := h b' hb'
  exact (hc b hb).of_floorNumbers hnumbers

end Collection

/-- **An intent leaves every building a floor** if and only if it does not make one without. -/
theorem Intent.Effect.haveFloors {intent : Intent} {c : Collection} {o : Outcome}
    (h : Effect c clock s intent o s') (hc : c.HaveFloors) :
    (o.collection.getD c).HaveFloors ↔ o.reply.createdFloors? ≠ some 0 := by
  cases h with
  | answered hanswered => exact iff_of_true hc (by simp [hanswered.createdFloors?_eq_none])
  | switched => exact iff_of_true hc (by simp [Reply.createdFloors?])
  | @created spec b _ _ hb =>
    have hlength : b.floors.length = spec.floors := by
      rw [hb, Building.generate, List.length_map, List.length_range]
    refine hc.withNewActive_iff.trans ?_
    rw [Building.HasFloor, hlength, Nat.one_le_iff_ne_zero]
    simp [Reply.createdFloors?]
  | turned hb hturns =>
    have hactive := hc _ (Collection.mem_of_active? hb)
    exact iff_of_true (hc.withBuilding (hturns.hasFloor hactive))
      (by simp [hturns.createdFloors?_eq_none])

theorem dispatch_haveFloors {c : Collection} {text : String} {o : Outcome}
    (h : dispatch c text clock s = .ok (o, s')) (hc : c.HaveFloors) :
    (o.collection.getD c).HaveFloors ↔ o.reply.createdFloors? ≠ some 0 := by
  unfold dispatch at h
  split at h
  · exact (Intent.apply_effect h).haveFloors hc
  · cases h
    exact iff_of_true hc (by simp [Intent.unchanged, Reply.forUnknown, Reply.createdFloors?])

/-! ## Runs -/

/-- The exchange makes a building without floors. -/
def Exchange.Hollow (e : Exchange) : Prop := e.reply.bind Reply.createdFloors? = some 0

instance (e : Exchange) : Decidable e.Hollow :=
  inferInstanceAs (Decidable (e.reply.bind Reply.createdFloors? = some 0))

namespace Session

variable {t t' : Session σ}

omit [BlobStore σ] in
theorem Talks.haveFloors {reply : Option Reply} (h : Talks clock t reply t')
    (hc : t.collection.HaveFloors) :
    t'.collection.HaveFloors ↔ ¬ Exchange.Hollow ⟨t.collection, reply, t'.collection⟩ := by
  cases h with
  | silent hsame =>
    rw [hsame]
    exact iff_of_true hc (by simp [Exchange.Hollow])
  | answered hbefore hdispatch hafter houtcome =>
    rw [houtcome, dispatch_haveFloors hdispatch hc]
    rfl

/-- What is done with a session other than putting lines to it leaves every building a floor, if
    buildings are not replaced as a whole. -/
theorem perform_haveFloors {op : Operation} {answer : Answer} (hchat : op.isChat = false)
    (hop : op.replaces = false) (ht : t.Sound) (hc : t.collection.HaveFloors)
    (h : t.perform op clock = .ok (answer, t')) : t'.collection.HaveFloors := by
  have houtturn : Outturn clock t (.operation op) answer t' := enact_outturn h
  cases houtturn with
  | kept => exact hc
  | taken | answered | sent => cases hchat
  | attached _ _ hnumbers => exact hnumbers.haveFloors hc
  | replaced hyields =>
    cases hyields with
    | given => cases hop
    | edited hold e =>
      have hmem := Collection.mem_of_active? hold
      have hids := (ht.buildings _ hmem).floorIds.nodup
      exact hc.withBuilding (e.hasFloor_applyTo hids (hc _ hmem) clock t.stamps)
  | cleared => exact fun _ hb => nomatch hb

theorem reply?_eq_none {op : Operation} (hchat : op.isChat = false) : t.reply? op clock = none := by
  cases op with
  | start | finish | send => cases hchat
  | _ => rfl

theorem step_haveFloors {op : Operation} {answer : Answer} (hop : op.replaces = false) (ht : t.Sound)
    (hc : t.collection.HaveFloors) (h : t.step op clock = .ok (answer, t')) :
    t'.collection.HaveFloors ↔
      ¬ Exchange.Hollow ⟨t.collection, t.reply? op clock, t'.collection⟩ := by
  cases hchat : op.isChat with
  | true => exact (talks_step hchat h).1.haveFloors hc
  | false =>
    have hafter := perform_haveFloors hchat hop ht hc (perform_of_step h).1
    rw [reply?_eq_none hchat]
    exact iff_of_true hafter (by simp [Exchange.Hollow])

/-- **When every building has a floor.** Whatever is done with a session that started on an empty store,
    unless buildings are replaced as a whole, every building has at least one floor at every moment if
    and only if no building is made without one. The clock may stand still or go back, as long as it is
    past the counts that occur in ids. -/
theorem haveFloors_iff {store : σ} (hstore : BlobStore.get store buildingsKey = .ok none)
    (opening : Clock) {steps : List (Operation × Clock)}
    (hclock : ∀ x ∈ steps, x.2.IsPast Intent.maxQuantity)
    (hops : ∀ x ∈ steps, x.1.replaces = false) :
    (∀ e ∈ (restore store opening).exchanges steps, e.after.HaveFloors) ↔
      ∀ e ∈ (restore store opening).exchanges steps, ¬ e.Hollow := by
  have hstep : ∀ x ∈ steps, ∀ (t : Session σ) answer t', t.Sound →
      t.step x.1 x.2 = .ok (answer, t') →
      t'.Sound ∧ (t.collection.HaveFloors → (t'.collection.HaveFloors ↔
        ¬ Exchange.Hollow ⟨t.collection, t.reply? x.1 x.2, t'.collection⟩)) := by
    intro x hx t answer t' ht hstep
    have hnext := ht.step (hclock x hx) (hops x hx)
    rw [hstep] at hnext
    exact ⟨hnext, fun hc => step_haveFloors (hops x hx) ht hc hstep⟩
  refine exchanges_iff hstep (.restore hstore opening) ?_
  rw [collection_restore hstore]
  exact fun _ hb => nomatch hb

/-- The only floor of a building is to be removed, by a line of text and by a key, and then another one
    is added. -/
def stripped : List (Operation × Clock) :=
  [(.send "create Tower with 1 floor, 0 restrooms", .still 1000),
   (.send "remove 10 floors", .still 1000),
   (.edit (.removeFloor "building-1001-floor-1"), .still 1000),
   (.edit .addFloor, .still 1000)]

set_option maxRecDepth 100000 in
theorem stripped_haveFloors :
    ((restore ({} : MemoryStore) (.still 1000)).exchanges stripped).map
        (·.after.buildings.map (·.floors.length)) = [[1], [1], [1], [2]] ∧
      ∀ e ∈ (restore ({} : MemoryStore) (.still 1000)).exchanges stripped, e.after.HaveFloors := by
  refine ⟨by decide +kernel, (haveFloors_iff rfl (.still 1000) ?_ (by decide)).2 (by decide +kernel)⟩
  simp [stripped, Intent.maxQuantity]

/-- A building is made without floors. -/
def hollow : List (Operation × Clock) :=
  [(.send "create Tower with 0 floors, 0 restrooms", .still 1000)]

set_option maxRecDepth 100000 in
theorem hollow_floorless :
    (∀ x ∈ hollow, x.1.isChat ∧ x.2.IsPast Intent.maxQuantity) ∧
      ¬ ∀ e ∈ (restore ({} : MemoryStore) (.still 1000)).exchanges hollow, e.after.HaveFloors := by
  refine ⟨by simp [hollow, Operation.isChat, Intent.maxQuantity], ?_⟩
  decide +kernel

end Session

end Floorplan
