import Floorplan.Proofs.Session.Exchange

set_option autoImplicit false

/-! # The names of the buildings

A building is looked up by its name without regard to case, and the first one that fits is taken. So a
building can be reached by its name exactly when no building before it has the same name. Making a
building is refused if its name is taken; renaming one is not. Hence the names stay distinct exactly as
long as the active building is not given the name of another one (`Session.namesDistinct_iff`), and they
do not in general (`Session.namesake_collides`). -/

namespace Floorplan

variable {σ : Type} [BlobStore σ] {clock : Clock}

/-! ## Distinct names -/

namespace Collection

variable {c : Collection} {b b' : Building} {name : String}

/-- No two buildings have the same name but for case. -/
def NamesDistinct (c : Collection) : Prop := (c.buildings.map fun b => Text.lower b.name).Nodup

instance (c : Collection) : Decidable c.NamesDistinct :=
  List.nodupDecidable _

/-- A building other than the active one has the name but for case. -/
def Namesake (c : Collection) (name : String) : Prop :=
  ∃ b ∈ c.buildings, c.activeId ≠ some b.id ∧ Text.lower b.name = Text.lower name

/-- Where ids are distinct, names are distinct if and only if every building is found by its name. -/
theorem namesDistinct_iff_findByName? (hids : (c.buildings.map (·.id)).Nodup) :
    c.NamesDistinct ↔ ∀ b ∈ c.buildings, c.findByName? b.name = some b := by
  constructor
  · intro hnames b hb
    have hsome : (c.findByName? b.name).isSome := by
      rw [findByName?, List.find?_isSome]
      exact ⟨b, hb, by simp⟩
    obtain ⟨x, hx⟩ := Option.isSome_iff_exists.1 hsome
    have hname : Text.lower x.name = Text.lower b.name := by simpa using List.find?_some hx
    rw [hx, List.inj_on_of_nodup_map hnames (List.mem_of_find?_eq_some hx) hb hname]
  · intro hfound
    refine List.Nodup.map_on (fun x hx y hy hname => ?_) hids.of_map
    -- What is found by a name does not depend on its case.
    have hsame : c.findByName? x.name = c.findByName? y.name := by simp only [findByName?, hname]
    rw [hfound x hx, hfound y hy] at hsame
    exact Option.some.inj hsame

theorem NamesDistinct.withNewActive (h : c.NamesDistinct) (hnew : c.findByName? b.name = none) :
    (c.withNewActive b).NamesDistinct := by
  have hnames : (c.withNewActive b).buildings.map (fun b => Text.lower b.name)
      = (c.buildings.map fun b => Text.lower b.name).concat (Text.lower b.name) := by
    simp [Collection.withNewActive]
  rw [NamesDistinct, hnames, List.nodup_concat]
  refine ⟨fun hmem => ?_, h⟩
  obtain ⟨x, hx, hname⟩ := List.mem_map.1 hmem
  simpa [hname] using List.find?_eq_none.1 hnew x hx

/-- What takes the place of the active building leaves the names distinct if and only if no other
    building has its name. -/
theorem NamesDistinct.withBuilding_iff (h : c.NamesDistinct)
    (hids : (c.buildings.map (·.id)).Nodup) (hb : c.active? = some b) (hid : b'.id = b.id) :
    (c.withBuilding b').NamesDistinct ↔ ¬ c.Namesake b'.name := by
  have hactive := activeId_of_active? hb
  have hmem := mem_of_active? hb
  have hnames : (c.withBuilding b').buildings.map (fun b => Text.lower b.name)
      = c.buildings.map fun x => Text.lower (if x.id = b.id then b' else x).name := by
    simp only [withBuilding, List.map_map, Function.comp_def, hid]
  rw [NamesDistinct, hnames]
  constructor
  · rintro hnodup ⟨x, hx, hother, hname⟩
    have hne : x.id ≠ b.id := fun heq => hother (heq ▸ hactive)
    refine hne (congrArg _ (List.inj_on_of_nodup_map hnodup hx hmem ?_))
    rw [if_neg hne, if_pos rfl, hname]
  · intro hfree
    have hdiffers : ∀ x ∈ c.buildings, x.id ≠ b.id → Text.lower x.name ≠ Text.lower b'.name := by
      intro x hx hne hname
      refine hfree ⟨x, hx, fun heq => hne ?_, hname⟩
      rw [hactive] at heq
      exact (Option.some.inj heq).symm
    refine List.Nodup.map_on (fun x hx y hy hname => ?_) hids.of_map
    split at hname <;> split at hname
    · exact (eq_of_active? hids hb hx ‹_›).trans (eq_of_active? hids hb hy ‹_›).symm
    · exact absurd hname.symm (hdiffers y hy ‹_›)
    · exact absurd hname (hdiffers x hx ‹_›)
    · exact List.inj_on_of_nodup_map h hx hy hname

end Collection

/-! ## What intents do to names -/

/-- The name that a reply says the active building has been given. -/
def Reply.renamed? : Reply → Option String
  | buildingRenamed name => some name
  | _ => none

namespace Intent

variable {intent : Intent} {c : Collection} {s s' : Stamps} {b b' : Building} {o : Outcome}

theorem Answered.renamed?_eq_none {reply : Reply} (h : Answered c intent reply) :
    reply.renamed? = none := by
  cases h <;> rfl

theorem name_growFloors {count : Option Nat} {said : List String}
    (h : growFloors b count clock s = ((b', said), s')) : b'.name = b.name := by
  unfold growFloors at h
  split at h <;> cases h <;> rfl

theorem name_growComponents {kind : ComponentKind} {count : Option Nat} {said : List String}
    (h : growComponents b kind count clock s = ((b', said), s')) : b'.name = b.name := by
  unfold growComponents at h
  split at h <;> cases h <;> rfl

/-- A building keeps its name unless the reply says that it has been given another one. -/
theorem Turns.name_eq {reply : Reply} (h : Turns clock b s intent b' reply s') :
    b'.name = reply.renamed?.getD b.name := by
  cases h with
  | addMultiple counts hfloors hrestrooms hcorridors =>
    rw [name_growComponents hcorridors, name_growComponents hrestrooms, name_growFloors hfloors]
    rfl
  | _ => rfl

/-- **An intent leaves the names distinct** if and only if it does not give the active building the
    name of another one. -/
theorem Effect.namesDistinct (h : Effect c clock s intent o s')
    (hids : (c.buildings.map (·.id)).Nodup) (hc : c.NamesDistinct) :
    (o.collection.getD c).NamesDistinct ↔ ∀ name ∈ o.reply.renamed?, ¬ c.Namesake name := by
  cases h with
  | answered hanswered => exact iff_of_true hc (by simp [hanswered.renamed?_eq_none])
  | switched => exact iff_of_true hc (by simp [Reply.renamed?])
  | created hnew _ hb =>
    subst hb
    exact iff_of_true (hc.withNewActive hnew) (by simp [Reply.renamed?])
  | @turned _ b b' reply _ hb hturns =>
    have hname := hturns.name_eq
    refine (hc.withBuilding_iff hids hb hturns.id_eq).trans ?_
    rw [hname]
    cases hrenamed : reply.renamed? with
    | some name => simp
    | none =>
      -- The active building keeps its name, which is that of no other building.
      refine iff_of_true ?_ (by simp)
      rintro ⟨x, hx, hother, hsame⟩
      have hxb := List.inj_on_of_nodup_map hc hx (Collection.mem_of_active? hb) hsame
      exact hother (hxb ▸ Collection.activeId_of_active? hb)

end Intent

theorem dispatch_namesDistinct {c : Collection} {text : String} {s s' : Stamps} {o : Outcome}
    (h : dispatch c text clock s = .ok (o, s')) (hids : (c.buildings.map (·.id)).Nodup)
    (hc : c.NamesDistinct) :
    (o.collection.getD c).NamesDistinct ↔ ∀ name ∈ o.reply.renamed?, ¬ c.Namesake name := by
  unfold dispatch at h
  split at h
  · exact (Intent.apply_effect h).namesDistinct hids hc
  · cases h
    exact iff_of_true hc (by simp [Intent.unchanged, Reply.forUnknown, Reply.renamed?])

/-! ## Runs -/

/-- The exchange gives the active building the name of another one. -/
def Exchange.Duplicates (e : Exchange) : Prop :=
  ∃ name, e.reply = some (.buildingRenamed name) ∧ e.before.Namesake name

namespace Session

variable {s s' : Session σ}

omit [BlobStore σ] in
theorem Talks.namesDistinct {reply : Option Reply} (h : Talks clock s reply s')
    (hs : s.Regular) (hnames : s.collection.NamesDistinct) :
    s'.collection.NamesDistinct ↔ ¬ Exchange.Duplicates ⟨s.collection, reply, s'.collection⟩ := by
  cases h with
  | silent hc =>
    rw [hc]
    exact iff_of_true hnames (by simp [Exchange.Duplicates])
  | @answered _ text o _ _ hbefore hdispatch hafter hc =>
    rw [hc, dispatch_namesDistinct hdispatch hs.buildingIds.nodup hnames]
    cases hreply : o.reply <;> simp [Exchange.Duplicates, Reply.renamed?]

/-- **When names stay distinct.** Lines of text are put to a session that started on an empty store,
    whatever the clock does. No two buildings have the same name but for case, at any moment, if and only
    if the active building is never given the name of another one; and if and only if every building
    can be found by its name at any moment. -/
theorem namesDistinct_iff {store : σ} (hstore : BlobStore.get store buildingsKey = .ok none)
    (opening : Clock) {steps : List (Operation × Clock)} (hchat : ∀ x ∈ steps, x.1.isChat) :
    ((∀ e ∈ (restore store opening).exchanges steps, e.after.NamesDistinct) ↔
        ∀ e ∈ (restore store opening).exchanges steps, ¬ e.Duplicates) ∧
      ((∀ e ∈ (restore store opening).exchanges steps, e.after.NamesDistinct) ↔
        ∀ e ∈ (restore store opening).exchanges steps,
          ∀ b ∈ e.after.buildings, e.after.findByName? b.name = some b) := by
  have hregular := regular_restore hstore opening
  have hstep : ∀ x ∈ steps, ∀ (s : Session σ) answer s', s.Regular → s.step x.1 x.2 = .ok (answer, s') →
      s'.Regular ∧ (s.collection.NamesDistinct → (s'.collection.NamesDistinct ↔
        ¬ Exchange.Duplicates ⟨s.collection, s.reply? x.1 x.2, s'.collection⟩)) := by
    intro x hx s answer s' hs hstep
    obtain ⟨htalks, hfits⟩ := talks_step (hchat x hx) hstep
    exact ⟨htalks.regular hs hfits, htalks.namesDistinct hs⟩
  have hempty : (restore store opening).collection = .empty := by
    simp only [restore, Saved.loadOr, hstore]
  refine ⟨exchanges_iff hstep hregular ?_, forall₂_congr fun e he => ?_⟩
  · rw [hempty]
    exact List.nodup_nil
  · have hids : ∀ e ∈ (restore store opening).exchanges steps,
        (e.after.buildings.map (·.id)).Nodup := by
      refine exchanges_forall (fun x hx s answer s' hs hok => ?_) hregular
      obtain ⟨hs', -⟩ := hstep x hx s answer s' hs hok
      exact ⟨hs', hs'.buildingIds.nodup⟩
    exact Collection.namesDistinct_iff_findByName? (hids e he)

/-- Two buildings are made, and each of them is given a name that is not taken. -/
def renamedApart : List (Operation × Clock) :=
  [(.send "create Tower with 0 floors, 0 restrooms", .still 0),
   (.send "create Annex with 0 floors, 0 restrooms", .still 0),
   (.send "change building name to Lodge", .still 0)]

set_option maxRecDepth 100000 in
theorem renamedApart_distinct :
    ((restore ({} : MemoryStore) (.still 0)).exchanges renamedApart).map (·.after.names)
        = [["Tower"], ["Tower", "Annex"], ["Tower", "Lodge"]] ∧
      ∀ e ∈ (restore ({} : MemoryStore) (.still 0)).exchanges renamedApart, ¬ e.Duplicates := by
  have hchat : ∀ x ∈ renamedApart, x.1.isChat := by simp [renamedApart, Operation.isChat]
  refine ⟨by decide +kernel, (namesDistinct_iff rfl (.still 0) hchat).1.1 ?_⟩
  decide +kernel

/-- Two buildings are made, and the second one is given the name of the first. -/
def namesake : List (Operation × Clock) :=
  [(.send "create Tower with 0 floors, 0 restrooms", .still 1000),
   (.send "create Annex with 0 floors, 0 restrooms", .still 1000),
   (.send "change building name to tower", .still 1000)]

set_option maxRecDepth 100000 in
theorem namesake_collides :
    (∀ x ∈ namesake, x.1.isChat) ∧
      ¬ ∀ e ∈ (restore ({} : MemoryStore) (.still 1000)).exchanges namesake,
        e.after.NamesDistinct := by
  refine ⟨by simp [namesake, Operation.isChat], ?_⟩
  decide +kernel

end Session

end Floorplan
