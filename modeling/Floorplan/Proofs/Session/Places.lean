import Floorplan.Proofs.Building.Layout
import Floorplan.Proofs.Intent.Words
import Floorplan.Proofs.Session.Arises
import Floorplan.Proofs.Session.WellFormed

set_option autoImplicit false

/-! # No two siblings on one place

What is added to siblings takes the place whose index is the number of those that are there. It may be
taken if one before the last was removed, and then two siblings stand on one place. So siblings stand
apart exactly as long as none is added on a taken place (`Session.apart_iff`), and they do not in
general (`Session.crowded_together`). -/

namespace Floorplan

open Siblings (Fresh Follows)

variable {σ : Type} [BlobStore σ] {clock : Clock} {b b' : Building} {s s' : Stamps}

/-! ## Intents -/

namespace Intent

variable {intent : Intent} {c : Collection} {o : Outcome} {reply : Reply} {kind : ComponentKind}
  {k m n : Nat}

/-- What changes the collection does not ask for more than the limit. -/
theorem le_maxQuantity_of_apply (h : intent.apply c clock s = .ok (o, s'))
    (hchanged : o.collection ≠ none) (hn : intent.requested? = some n) : n ≤ maxQuantity := by
  unfold apply at h
  split at h
  · cases h
    exact absurd rfl hchanged
  · rename_i hnone
    rw [hn] at hnone
    simpa [Option.filter] using hnone

theorem le_of_requested? {counts : AddCounts} (hcount : counts.restrooms = some m ∨
    counts.corridors = some m) (h : ∀ n, (addMultiple counts).requested? = some n → n ≤ k) :
    m ≤ k := by
  have hmem : m ∈ [counts.floors, counts.restrooms, counts.corridors].filterMap id := by
    rcases hcount with hcount | hcount <;> simp [hcount]
  obtain ⟨top, htop⟩ := Option.isSome_iff_exists.1 (List.isSome_max?_of_mem hmem)
  exact ((List.max?_eq_some_iff.1 htop).2 m hmem).trans (h top htop)

theorem arises_appendEverywhere (b : Building) (kind : ComponentKind) (count : Nat) (clock : Clock)
    (s : Stamps) :
    Arises (Fresh 2) (Siblings.Grows count) b.siblings
      (appendEverywhere b kind count clock s).1.siblings := by
  refine .flatMap fun g hg => Or.inr ?_
  obtain ⟨f, hf, s', rfl⟩ := exists_of_mem_appendToEach hg
  exact ⟨f, hf, f.arises_appendComponents b.id kind count clock s'⟩

theorem arises_growFloors {count : Option Nat} {said : List String}
    (h : growFloors b count clock s = ((b', said), s')) :
    Arises (Fresh 2) (Siblings.Grows 0) b.siblings b'.siblings := by
  unfold growFloors at h
  split at h
  · cases h
    exact .refl (.refl 0) _
  · rename_i n _
    cases h
    exact b.arises_appendFloors (.refl 0) n clock s

theorem arises_growComponents {count : Option Nat} {said : List String}
    (hcount : ∀ n, count = some n → n ≤ maxQuantity)
    (h : growComponents b kind count clock s = ((b', said), s')) :
    Arises (Fresh 2) (Siblings.Grows maxQuantity) b.siblings b'.siblings := by
  unfold growComponents at h
  split at h
  · cases h
    exact .refl (.refl maxQuantity) _
  · rename_i n hn
    cases h
    have hle := hcount n (Option.filter_eq_some_iff.1 hn).1
    exact (arises_appendEverywhere b kind n clock s).mono (fun _ => id) fun _ _ => .mono hle

/-- Names are not part of what siblings are. -/
theorem siblings_renamedOn (kind : ComponentKind) (building : String) (f : Floor)
    (names : List String) : (renamedOn kind f names).siblings building = f.siblings building := by
  cases kind with
  | restroom =>
    refine Floor.siblings_eq building rfl (map_renamePositional ?_ f.restrooms names) rfl
    exact fun _ _ => rfl
  | corridor =>
    refine Floor.siblings_eq building rfl rfl (map_renamePositional ?_ f.corridors names)
    exact fun _ _ => rfl

theorem siblings_renamedAt (kind : ComponentKind) (slot : Nat) (name building : String) (f : Floor) :
    (renamedAt kind slot name f).siblings building = f.siblings building := by
  cases kind with
  | restroom =>
    refine Floor.siblings_eq building rfl (map_modify ?_ f.restrooms slot) rfl
    exact fun _ => rfl
  | corridor =>
    refine Floor.siblings_eq building rfl rfl (map_modify ?_ f.corridors slot)
    exact fun _ => rfl

/-- **What an intent does to the siblings in a building**, as long as it asks for no more than the
    limit. -/
theorem Turns.arises (hquantity : ∀ n, intent.requested? = some n → n ≤ maxQuantity)
    (h : Turns clock b s intent b' reply s') :
    Arises (Fresh (2 ^ 40)) Follows b.siblings b'.siblings := by
  cases h with
  | nameFloors names floors hfloors =>
    refine .of_eq .refl ?_
    have hsame : floors.map (·.siblings b.id) = b.floors.map (·.siblings b.id) := by
      rw [hfloors]
      refine map_renamePositional ?_ b.floors names
      exact fun _ _ => rfl
    simp only [Building.siblings, List.flatMap, hsame]
  | @nameComponents f kind floor names hf =>
    refine .map_floors .refl fun _ _ _ => ⟨f, List.mem_of_find?_eq_some hf, ?_⟩
    exact .of_eq .refl (siblings_renamedOn kind b.id f names)
  | nameComponent kind floor index name =>
    refine .map_floors .refl fun f hf _ => ⟨f, hf, ?_⟩
    exact .of_eq .refl (siblings_renamedAt kind (index - 1) name b.id f)
  | nameFloor floor name =>
    exact .map_floors .refl fun f hf _ => ⟨f, hf, .refl .refl _⟩
  | nameBuilding name => exact .refl .refl _
  | addFloors count =>
    exact (b.arises_appendFloors .refl count clock s).mono (fun _ => .mono (by decide)) fun _ _ => id
  | addEverywhere kind count =>
    exact (arises_appendEverywhere b kind count clock s).mono (fun _ => .mono (by decide))
      fun _ _ => .grows
  | @addOnFloor f kind count floor hf =>
    have hgrown := f.arises_appendComponents b.id kind count clock s
    exact .map_floors .refl fun _ _ _ =>
      ⟨f, List.mem_of_find?_eq_some hf, hgrown.mono (fun _ => .mono (by decide)) fun _ _ => .grows⟩
  | addMultiple counts hfloors hrestrooms hcorridors =>
    have htaller := arises_growFloors hfloors
    have hwider := arises_growComponents (fun n hn => le_of_requested? (.inl hn) hquantity) hrestrooms
    have hwidest := arises_growComponents (fun n hn => le_of_requested? (.inr hn) hquantity) hcorridors
    have hwide : Arises (Fresh (2 + maxQuantity)) (Siblings.Grows (0 + maxQuantity)) b.siblings _ :=
      Siblings.arises_trans htaller (hwider.mono (fun _ => .mono (by decide)) fun _ _ => id)
    have hall := Siblings.arises_trans hwide (hwidest.mono (fun _ => .mono (by decide)) fun _ _ => id)
    exact hall.mono (fun _ => .mono (by decide)) fun _ _ => .grows
  | removeFloors count kept hpos hkept =>
    refine .renumber .refl (fun _ _ => rfl) fun f hf => ?_
    rw [hkept] at hf
    exact (List.mergeSort_perm _ _).mem_iff.1 (List.mem_of_mem_take hf)

theorem apply_arises (h : intent.apply c clock s = .ok (o, s')) :
    Arises (Fresh (2 ^ 40)) Follows c.siblings (o.collection.getD c).siblings := by
  have heffect := apply_effect h
  cases heffect with
  | answered => exact .refl .refl _
  | switched => exact .refl .refl _
  | created hnew hquantity hb =>
    subst hb
    have hlimit : maxQuantity ≤ 2 ^ 40 := by decide
    refine .withNewActive .refl c ?_
    exact Building.fresh_generate _ _ (by omega) (by omega) (by omega)
  | turned hb hturns =>
    have hquantity := fun n => le_maxQuantity_of_apply (n := n) h (Option.some_ne_none _)
    exact .withBuilding .refl (Collection.mem_of_active? hb) (hturns.arises hquantity)

end Intent

theorem dispatch_arises {c : Collection} {text : String} {o : Outcome}
    (h : dispatch c text clock s = .ok (o, s')) :
    Arises (Fresh (2 ^ 40)) Follows c.siblings (o.collection.getD c).siblings := by
  unfold dispatch at h
  split at h
  · exact Intent.apply_arises h
  · cases h
    exact .refl .refl _

/-! ## Sessions -/

namespace Session

variable {t t' : Session σ}

theorem arises_setMap (t : Session σ) (kind : ComponentKind) (floor component : String)
    (map : Option String) : Arises (Fresh (2 ^ 40)) Follows t.collection.siblings
      (t.setMap kind floor component map).collection.siblings := by
  refine arises_editActive .refl t fun b => Building.arises_mapFloor .refl floor fun f => ?_
  cases kind with
  | restroom => exact f.arises_mapRestroom b.id component .refl fun _ => rfl
  | corridor => exact f.arises_mapCorridor b.id component .refl (fun _ => rfl) fun _ => .refl _

theorem arises_setFixture (t : Session σ) (floor restroom : String) (fixture : Option String) :
    Arises (Fresh (2 ^ 40)) Follows t.collection.siblings
      (t.setFixture floor restroom fixture).collection.siblings :=
  arises_editActive .refl t fun b => Building.arises_mapFloor .refl floor fun f =>
    f.arises_mapRestroom b.id restroom .refl fun _ => rfl

theorem arises_edit (t : Session σ) (e : Edit) (clock : Clock) :
    Arises (Fresh (2 ^ 40)) Follows t.collection.siblings
      (t.editStructure (e.applyTo · clock ·) clock).2.collection.siblings :=
  t.arises_editStructure .refl
    (fun b s => (e.arises_applyTo b clock s).mono (fun _ => .mono (by decide)) fun _ _ => id) clock

/-- **What an operation does to siblings**, unless it replaces a building as a whole. -/
theorem step_arises {op : Operation} {answer : Answer} (hop : op.replaces = false)
    (h : t.step op clock = .ok (answer, t')) :
    Arises (Fresh (2 ^ 40)) Follows t.collection.siblings t'.collection.siblings := by
  have hperform := (perform_of_step h).1
  cases op with
  | start | finish | send => exact (talks_step rfl h).1.arises .refl dispatch_arises
  | setMap kind floor component map =>
    cases hperform
    exact t.arises_setMap kind floor component map
  | setFixture floor restroom fixture =>
    cases hperform
    exact t.arises_setFixture floor restroom fixture
  | uploadMap disk kind floor component path =>
    cases hperform
    unfold uploadMap
    split
    · exact t.arises_setMap kind floor component _
    · exact .refl .refl _
  | uploadFixture disk floor restroom path =>
    cases hperform
    unfold uploadFixture
    split
    · exact t.arises_setFixture floor restroom _
    · exact .refl .refl _
  | edit e =>
    cases hperform
    exact t.arises_edit e clock
  | update b => cases hop
  | switchTo id =>
    cases hperform
    unfold switchTo
    split <;> exact .refl .refl _
  | clear =>
    cases hperform
    exact fun _ hx => nomatch hx

end Session

/-! ## Runs -/

/-- No two siblings stand on one place. -/
def Collection.Apart (c : Collection) : Prop := Siblings.Apart c.siblings

instance (c : Collection) : Decidable c.Apart := inferInstanceAs (Decidable (Siblings.Apart _))

/-- Something is added on a place at which another one of its siblings stands. -/
def Exchange.Crowds (e : Exchange) : Prop := Siblings.Crowds e.before.siblings e.after.siblings

instance (e : Exchange) : Decidable e.Crowds := inferInstanceAs (Decidable (Siblings.Crowds _ _))

namespace Session

/-- **When no two siblings stand on one place.** Whatever is done with a session that started on an
    empty store, unless buildings are replaced as a whole, the restrooms of every floor, its corridors,
    and the lifts of every corridor have different positions at every moment if and only if none is ever
    added on the place of another one. The clock may stand still or go back, as long as it is past the
    counts that occur in ids. -/
theorem apart_iff {store : σ} (hstore : BlobStore.get store buildingsKey = .ok none)
    (opening : Clock) {steps : List (Operation × Clock)}
    (hclock : ∀ x ∈ steps, x.2.IsPast Intent.maxQuantity)
    (hops : ∀ x ∈ steps, x.1.replaces = false) :
    (∀ e ∈ (restore store opening).exchanges steps, e.after.Apart) ↔
      ∀ e ∈ (restore store opening).exchanges steps, ¬ e.Crowds := by
  have hstep : ∀ x ∈ steps, ∀ (t : Session σ) answer t', t.Sound →
      t.step x.1 x.2 = .ok (answer, t') →
      t'.Sound ∧ (t.collection.Apart → (t'.collection.Apart ↔
        ¬ Exchange.Crowds ⟨t.collection, t.reply? x.1 x.2, t'.collection⟩)) := by
    intro x hx t answer t' ht hstep
    have hnext := ht.step (hclock x hx) (hops x hx)
    rw [hstep] at hnext
    have hwell : t.collection.WellFormed := Collection.Sound.wellFormed ht
    exact ⟨hnext, Siblings.arises_apart_iff (step_arises (hops x hx) hstep) le_rfl
      fun _ hx _ hy => hwell.eq_of_owner_eq hx hy⟩
  refine exchanges_iff hstep (.restore hstore opening) ?_
  rw [collection_restore hstore]
  exact fun _ hx => nomatch hx

/-- The last restroom and the last lift are taken away, and others are added in their places. -/
def refilled : List (Operation × Clock) :=
  [(.send "create Tower with 1 floor, 2 restrooms, 1 corridor", .still 1000),
   (.edit (.removeComponent .restroom "building-1001-floor-1" "building-1001-floor-1-restroom-2"),
     .still 1000),
   (.edit (.removeLift "building-1001-floor-1" "building-1001-floor-1-corridor-1"
     "building-1001-floor-1-corridor-1-lift-2"), .still 1000),
   (.edit (.addLift "building-1001-floor-1" "building-1001-floor-1-corridor-1"), .still 1000),
   (.send "add 2 restrooms to floor 1", .still 1000)]

set_option maxRecDepth 100000 in
theorem refilled_apart :
    ((restore ({} : MemoryStore) (.still 1000)).exchanges refilled).map
        (·.after.siblings.map (·.positions.length))
          = [[2, 1, 2], [1, 1, 2], [1, 1, 1], [1, 1, 2], [3, 1, 2]] ∧
      ∀ e ∈ (restore ({} : MemoryStore) (.still 1000)).exchanges refilled, e.after.Apart := by
  refine ⟨by decide +kernel, (apart_iff rfl (.still 1000) ?_ (by decide)).2 (by decide +kernel)⟩
  simp [refilled, Intent.maxQuantity]

/-- The first lift is taken away, and another one is added. -/
def crowded : List (Operation × Clock) :=
  [(.send "create Tower with 1 floor, 0 restrooms, 1 corridor", .still 1000),
   (.edit (.removeLift "building-1001-floor-1" "building-1001-floor-1-corridor-1"
     "building-1001-floor-1-corridor-1-lift-1"), .still 1000),
   (.edit (.addLift "building-1001-floor-1" "building-1001-floor-1-corridor-1"), .still 1000)]

set_option maxRecDepth 100000 in
theorem crowded_together :
    (∀ x ∈ crowded, x.1.replaces = false ∧ x.2.IsPast Intent.maxQuantity) ∧
      ¬ ∀ e ∈ (restore ({} : MemoryStore) (.still 1000)).exchanges crowded, e.after.Apart := by
  refine ⟨by simp [crowded, Operation.replaces, Intent.maxQuantity], ?_⟩
  decide +kernel

end Session

end Floorplan
