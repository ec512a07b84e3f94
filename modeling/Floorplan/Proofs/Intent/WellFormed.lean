import Floorplan.Proofs.Building.Edit
import Floorplan.Proofs.Intent.Effect
import Floorplan.Proofs.Intent.Rename

set_option autoImplicit false

/-! # Intents keep collections sound

Renaming leaves ids and numbers as they are; what is added has freshly drawn stamps; what is created is
counted within the limit of a request; what is removed is numbered anew. Where a floor takes the place
of every floor of its number there is only one such floor, because the collection was sound before.

The main result is `Intent.apply_sound`: an intent has an outcome on every sound collection, and the
collection that it leads to is sound again. -/

namespace Floorplan

variable {clock : Clock} {s s' : Stamps} {m n : Nat}

theorem Floor.TurnsInto.mono {f g : Floor} (hmn : m ≤ n) (h : f.TurnsInto m g) : f.TurnsInto n g :=
  ⟨h.id_eq, h.number_eq, h.sound.mono hmn⟩

namespace Intent

/-! ## Renaming -/

theorem renamedOn_turnsInto {f : Floor} (h : f.Sound n) (kind : ComponentKind)
    (names : List String) : f.TurnsInto n (renamedOn kind f names) := by
  cases kind with
  | restroom =>
    refine h.replaceRestrooms (map_renamePositional ?_ f.restrooms names)
    exact fun _ _ => rfl
  | corridor =>
    refine h.replaceCorridors (map_renamePositional ?_ f.corridors names)
    exact fun _ _ => rfl

theorem renamedAt_turnsInto {f : Floor} (h : f.Sound n) (kind : ComponentKind) (slot : Nat)
    (name : String) : f.TurnsInto n (renamedAt kind slot name f) := by
  cases kind with
  | restroom =>
    refine h.replaceRestrooms (map_modify ?_ f.restrooms slot)
    exact fun _ => rfl
  | corridor =>
    refine h.replaceCorridors (map_modify ?_ f.corridors slot)
    exact fun _ => rfl

/-! ## Adding to every floor -/

theorem high_le_appendToEach (hclock : clock.IsPast maxQuantity) (kind : ComponentKind)
    (count : Nat) (floors : List Floor) (s : Stamps) :
    s.high ≤ (appendToEach kind count clock floors s).2.high := by
  induction floors generalizing s with
  | nil => exact le_rfl
  | cons f floors ih => exact (f.high_le_appendComponents hclock kind count s).trans (ih _)

/-- The stamps run through the floors: what a floor turns into is sound with the stamps that have been
    drawn by then, and stays so. -/
theorem appendToEach_turnsInto (hclock : clock.IsPast maxQuantity) (kind : ComponentKind)
    (count : Nat) {floors : List Floor} (h : ∀ f ∈ floors, f.Sound s.high) :
    List.Forall₂ (Floor.TurnsInto (appendToEach kind count clock floors s).2.high) floors
      (appendToEach kind count clock floors s).1 := by
  induction floors generalizing s with
  | nil => exact .nil
  | cons f floors ih =>
    obtain ⟨hf, hfloors⟩ := List.forall_mem_cons.1 h
    have hle := f.high_le_appendComponents hclock kind count s
    refine .cons ?_ (ih fun g hg => (hfloors g hg).mono hle)
    exact (hf.appendComponents hclock kind count).mono
      (high_le_appendToEach hclock kind count floors _)

theorem appendEverywhere_sound (hclock : clock.IsPast maxQuantity) (kind : ComponentKind)
    (count : Nat) {b : Building} (h : b.Sound s.high) :
    (appendEverywhere b kind count clock s).1.Sound
      (appendEverywhere b kind count clock s).2.high :=
  h.replaceFloors (high_le_appendToEach hclock kind count b.floors s)
    (appendToEach_turnsInto hclock kind count h.floors)

/-! ## Combined additions -/

/-- What one part of a combined addition makes of a sound building. -/
structure Grows (b : Building) (s : Stamps) (b' : Building) (s' : Stamps) : Prop where
  high_le : s.high ≤ s'.high
  sound : b.Sound s.high → b'.Sound s'.high

theorem Grows.refl (b : Building) (s : Stamps) : Grows b s b s := ⟨le_rfl, id⟩

theorem Grows.trans {b₁ b₂ b₃ : Building} {s₁ s₂ s₃ : Stamps} (h : Grows b₁ s₁ b₂ s₂)
    (h' : Grows b₂ s₂ b₃ s₃) : Grows b₁ s₁ b₃ s₃ :=
  ⟨h.high_le.trans h'.high_le, fun hb => h'.sound (h.sound hb)⟩

theorem grows_growFloors (hclock : clock.IsPast maxQuantity) {b b' : Building} {count : Option Nat}
    {said : List String} (h : growFloors b count clock s = ((b', said), s'))
    (hfits : b'.floors.length < wordLimit) : Grows b s b' s' := by
  unfold growFloors at h
  split at h
  · cases h
    exact .refl b s
  · rename_i k _
    cases h
    refine ⟨Stamps.high_le_draw hclock s k, fun hb => ?_⟩
    exact hb.appendFloors hclock (b.length_appendFloors k clock s ▸ hfits)

theorem length_appendToEach (kind : ComponentKind) (count : Nat) (clock : Clock)
    (floors : List Floor) (s : Stamps) :
    (appendToEach kind count clock floors s).1.length = floors.length := by
  induction floors generalizing s with
  | nil => rfl
  | cons f floors ih => simp [appendToEach, ih]

theorem grows_growComponents (hclock : clock.IsPast maxQuantity) {b b' : Building}
    {kind : ComponentKind} {count : Option Nat} {said : List String}
    (h : growComponents b kind count clock s = ((b', said), s')) :
    Grows b s b' s' ∧ b'.floors.length = b.floors.length := by
  unfold growComponents at h
  split at h
  · cases h
    exact ⟨.refl b s, rfl⟩
  · rename_i k _
    cases h
    refine ⟨⟨high_le_appendToEach hclock kind k b.floors s, ?_⟩, ?_⟩
    · exact appendEverywhere_sound hclock kind k
    · exact length_appendToEach kind k clock b.floors s

/-! ## All intents -/

/-- Whatever an intent turns a building into, as long as its floors can be counted by a word. -/
theorem Turns.grows (hclock : clock.IsPast maxQuantity) {intent : Intent} {b b' : Building}
    {reply : Reply} (h : Turns clock b s intent b' reply s') (hfits : b'.floors.length < wordLimit) :
    Grows b s b' s' := by
  cases h with
  | nameFloors names floors hfloors =>
    refine ⟨le_rfl, fun hb => ?_⟩
    subst hfloors
    refine hb.replaceFloors le_rfl (forall₂_renamePositional (fun f hf => ?_) (fun f hf n => ?_) _)
    · exact .refl (hb.floors f hf)
    · obtain ⟨hrestrooms, hcorridors, hlifts⟩ := hb.floors f hf
      exact ⟨rfl, rfl, hrestrooms, hcorridors, hlifts⟩
  | nameComponents kind floor names hf =>
    refine ⟨le_rfl, fun hb => ?_⟩
    rw [Building.mapNumbered_const (Building.floorNumbers_nodup hb.wellFormed) hf
      (renamedOn kind · names)]
    exact hb.mapNumbered le_rfl fun f hf => renamedOn_turnsInto hf kind names
  | nameComponent kind floor index name =>
    refine ⟨le_rfl, fun hb => ?_⟩
    exact hb.mapNumbered le_rfl fun f hf => renamedAt_turnsInto hf kind (index - 1) name
  | nameFloor floor name =>
    refine ⟨le_rfl, fun hb => ?_⟩
    exact hb.mapNumbered le_rfl fun f hf => ⟨rfl, rfl, hf.restrooms, hf.corridors, hf.lifts⟩
  | nameBuilding name =>
    exact ⟨le_rfl, fun hb => ⟨hb.totalFloors_eq, hb.floorNumbers_eq, hb.floorIds, hb.floors⟩⟩
  | addFloors count =>
    refine ⟨Stamps.high_le_draw hclock s count, fun hb => ?_⟩
    exact hb.appendFloors hclock (b.length_appendFloors count clock s ▸ hfits)
  | addEverywhere kind count =>
    exact ⟨high_le_appendToEach hclock kind count b.floors s,
      appendEverywhere_sound hclock kind count⟩
  | @addOnFloor f kind count floor hf =>
    have hle := f.high_le_appendComponents hclock kind count s
    refine ⟨hle, fun hb => hb.mapFloors hle fun g hg hsound => ?_⟩
    split
    -- The floor that was found is the only one of its number.
    · rename_i hnumber
      have hnodup := Building.floorNumbers_nodup hb.wellFormed
      rw [Building.eq_of_floorByNumber? hnodup hf hg hnumber] at hsound ⊢
      exact hsound.appendComponents hclock kind count
    · exact .refl (hsound.mono hle)
  | addMultiple counts hfloors hrestrooms hcorridors =>
    obtain ⟨hwidest, hlength⟩ := grows_growComponents hclock hcorridors
    obtain ⟨hwider, hlength'⟩ := grows_growComponents hclock hrestrooms
    -- Only the first part adds floors, so they fit after it because they fit in the end.
    have htaller := grows_growFloors hclock hfloors (by omega)
    exact (htaller.trans hwider).trans hwidest
  | removeFloors count kept hpos hkept =>
    refine ⟨le_rfl, fun hb => ?_⟩
    have hsub : kept.Subperm b.floors := by
      rw [hkept]
      exact (List.take_sublist _ _).subperm.trans (List.mergeSort_perm _ _).subperm
    have hleft := hb.renumber hsub
    simpa only [Building.synced, length_renumber] using hleft

end Intent

/-! ## Collections -/

namespace Collection.Sound

variable {c : Collection} {b : Building}

theorem withBuilding (h : c.Sound m) (hmn : m ≤ n) (hb : b.Sound n) :
    (c.withBuilding b).Sound n := by
  have hids := c.map_id_withBuilding b
  refine ⟨?_, fun id hid => ?_, fun x hx => ?_⟩
  · rw [hids]
    exact h.buildingIds.mono fun _ => .mono hmn
  · obtain ⟨x, hx, rfl⟩ := h.active id hid
    have hmem : x.id ∈ (c.withBuilding b).buildings.map (·.id) := by
      rw [hids]
      exact List.mem_map_of_mem hx
    simpa using hmem
  · obtain ⟨y, hy, rfl⟩ := List.mem_map.1 hx
    split
    · exact hb
    · exact (h.buildings y hy).mono hmn

theorem withActive (h : c.Sound n) (hb : b ∈ c.buildings) :
    Collection.Sound n { c with activeId := some b.id } :=
  ⟨h.buildingIds, fun _ hid => ⟨b, hb, Option.some.inj hid⟩, h.buildings⟩

theorem withNewActive (hclock : clock.IsPast Intent.maxQuantity) (h : c.Sound s.high)
    (hid : b.id = "building-" ++ toString (s.next clock).1)
    (hb : b.Sound (s.next clock).2.high) : (c.withNewActive b).Sound (s.next clock).2.high := by
  have hle := Stamps.high_le_next hclock s
  have hdrawn := h.buildingIds.append_drawn hclock 1
  refine ⟨?_, fun id hactive => ?_, fun x hx => ?_⟩
  · simp only [Collection.withNewActive, List.map_append, List.map_cons, List.map_nil, hid]
    exact hdrawn
  · exact ⟨b, by simp [Collection.withNewActive], Option.some.inj hactive⟩
  · rcases List.mem_append.1 hx with hx | hx
    · exact (h.buildings x hx).mono hle
    · rw [List.mem_singleton.1 hx]
      exact hb

theorem withCreated (hclock : clock.IsPast Intent.maxQuantity) (h : c.Sound s.high)
    {spec : BuildingSpec} (hquantity : max (max spec.floors spec.restrooms)
      (max spec.corridors spec.lifts) ≤ Intent.maxQuantity) (name : String) :
    (c.withNewActive (.generate ("building-" ++ toString (s.next clock).1) name spec.floors
      spec.restrooms spec.corridors spec.lifts)).Sound (s.next clock).2.high := by
  have hbound := (s.next clock).2.maxQuantity_le_high
  exact h.withNewActive hclock rfl (.generate _ _ (by omega) (by omega) (by omega))

end Collection.Sound

namespace Intent

variable {intent : Intent} {c : Collection} {o : Outcome}

/-- An intent has an outcome on a sound collection. -/
theorem apply_ok_of_sound {bound : Nat} (hc : c.Sound bound) (intent : Intent) (clock : Clock)
    (s : Stamps) : ∃ o s', intent.apply c clock s = .ok (o, s') := by
  refine apply_ok (fun b hb => ?_) intent clock s
  have hsound := hc.buildings b (Collection.mem_of_active? hb)
  exact Building.floorNumbers_nodup hsound.wellFormed

/-- **What an intent makes of a sound collection is sound**, with the stamps that have been drawn by
    then. -/
theorem apply_sound (hclock : clock.IsPast maxQuantity) (hc : c.Sound s.high)
    (h : intent.apply c clock s = .ok (o, s'))
    (hfits : ∀ c', o.collection = some c' → c'.Fits) :
    s.high ≤ s'.high ∧ (o.collection.getD c).Sound s'.high := by
  cases apply_effect h with
  | answered => exact ⟨le_rfl, hc⟩
  | switched hname => exact ⟨le_rfl, hc.withActive (List.mem_of_find?_eq_some hname)⟩
  | created hnew hquantity hb =>
    subst hb
    exact ⟨Stamps.high_le_next hclock s, hc.withCreated hclock hquantity _⟩
  | turned hb hturns =>
    have hmem := Collection.mem_withBuilding hb hturns.id_eq
    obtain ⟨hle, hsound⟩ := hturns.grows hclock (hfits _ rfl _ hmem)
    have hactive := hc.buildings _ (Collection.mem_of_active? hb)
    exact ⟨hle, hc.withBuilding hle (hsound hactive)⟩

end Intent

end Floorplan
