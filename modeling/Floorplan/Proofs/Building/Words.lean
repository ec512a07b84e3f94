import Floorplan.Proofs.Building.Edit
import Floorplan.Proofs.Building.ReadBack

set_option autoImplicit false

/-! # Numbers stay words

The floor numbers of a building are words of 64 bits, and so is the number of floors that it reports:
they are when it is read, and an edit leaves numbers alone, or wraps them around, or counts the floors
anew. At the same time stamps are only ever drawn. `Building.Evolves` says both of an edit
(`Edit.evolves`). -/

namespace Floorplan

variable {clock : Clock} {s s' : Stamps} {b b' b'' : Building}

/-! ## Stamps are drawn, and never taken back -/

theorem Stamps.last_le_next (s : Stamps) (clock : Clock) : s.last ≤ (s.next clock).2.last :=
  (s.last_lt_next clock).le

theorem Stamps.last_le_draw (s : Stamps) (clock : Clock) (count : Nat) :
    s.last ≤ (s.draw clock count).2.last := by
  induction count generalizing s with
  | zero => exact le_rfl
  | succ count ih => exact (s.last_le_next clock).trans (ih _)

theorem Floor.last_le_appendComponents (f : Floor) (kind : ComponentKind) (count : Nat)
    (clock : Clock) (s : Stamps) : s.last ≤ (f.appendComponents kind count clock s).2.last := by
  cases kind <;> exact s.last_le_draw clock count

@[simp] theorem Floor.number_appendComponents (f : Floor) (kind : ComponentKind) (count : Nat)
    (clock : Clock) (s : Stamps) : (f.appendComponents kind count clock s).1.number = f.number := by
  cases kind <;> rfl

/-! ## Numbers that are read -/

namespace Json

theorem lt_wordLimit_of_toNat? {j : Json} {n : Nat} (h : toNat? j = some n) : n < wordLimit := by
  cases j with
  | number m => exact Numeral.lt_wordLimit_of_toNat? h
  | _ => cases h

theorem lt_wordLimit_of_required? {field : Option Json} {n : Nat}
    (h : required? toNat? field = some n) : n < wordLimit := by
  obtain ⟨j, -, hj⟩ := Option.bind_eq_some_iff.1 h
  exact lt_wordLimit_of_toNat? hj

/-- What is read from the items of an array is what the reader makes of one. -/
theorem forall_of_toList? {α : Type} {read : Json → Option α} {p : α → Prop}
    (hread : ∀ j a, read j = some a → p a) {j : Json} {as : List α} (h : toList? read j = some as) :
    ∀ a ∈ as, p a := by
  cases j with
  | array items =>
    replace h : items.mapM read = some as := h
    induction items generalizing as with
    | nil =>
      cases h
      simp
    | cons item items ih =>
      rw [List.mapM_cons] at h
      obtain ⟨b, hb, h⟩ := Option.bind_eq_some_iff.1 h
      obtain ⟨bs, hbs, h⟩ := Option.bind_eq_some_iff.1 h
      cases h
      exact List.forall_mem_cons.2 ⟨hread item b hb, ih hbs⟩
  | _ => cases h

theorem forall_of_required? {α : Type} {read : Json → Option α} {p : α → Prop}
    (hread : ∀ j a, read j = some a → p a) {field : Option Json} {as : List α}
    (h : required? (toList? read) field = some as) : ∀ a ∈ as, p a := by
  obtain ⟨j, -, hj⟩ := Option.bind_eq_some_iff.1 h
  exact forall_of_toList? hread hj

end Json

theorem Floor.number_lt_of_ofJson? {j : Json} {f : Floor} (h : ofJson? j = some f) :
    f.number < wordLimit := by
  unfold ofJson? at h
  split at h
  · obtain ⟨id, -, h⟩ := Option.bind_eq_some_iff.1 h
    obtain ⟨number, hnumber, h⟩ := Option.bind_eq_some_iff.1 h
    obtain ⟨name, -, h⟩ := Option.bind_eq_some_iff.1 h
    obtain ⟨restrooms, -, h⟩ := Option.bind_eq_some_iff.1 h
    obtain ⟨corridors, -, h⟩ := Option.bind_eq_some_iff.1 h
    cases h
    exact Json.lt_wordLimit_of_required? hnumber
  · cases h

theorem Building.inWords_of_ofJson? {j : Json} {b : Building} (h : ofJson? j = some b) :
    b.InWords := by
  unfold ofJson? at h
  split at h
  · obtain ⟨id, -, h⟩ := Option.bind_eq_some_iff.1 h
    obtain ⟨name, -, h⟩ := Option.bind_eq_some_iff.1 h
    obtain ⟨totalFloors, htotal, h⟩ := Option.bind_eq_some_iff.1 h
    obtain ⟨floors, hfloors, h⟩ := Option.bind_eq_some_iff.1 h
    cases h
    exact ⟨Json.lt_wordLimit_of_required? htotal,
      Json.forall_of_required? (fun _ _ => Floor.number_lt_of_ofJson?) hfloors⟩
  · cases h

/-- What is read has numbers that are words. -/
theorem Collection.inWords_of_ofJson? {j : Json} {c : Collection} (h : ofJson? j = some c) :
    c.InWords := by
  unfold ofJson? at h
  split at h
  · obtain ⟨buildings, hbuildings, h⟩ := Option.bind_eq_some_iff.1 h
    obtain ⟨activeId, -, h⟩ := Option.bind_eq_some_iff.1 h
    cases h
    exact Json.forall_of_required? (fun _ _ => Building.inWords_of_ofJson?) hbuildings
  · cases h

/-! ## Numbers that change -/

namespace Building

/-- What the edits of a building have in common: stamps may be drawn, the reported number of floors
    stays or is counted anew, and floor numbers that are words remain words. -/
structure Evolves (b : Building) (s : Stamps) (b' : Building) (s' : Stamps) : Prop where
  last_le : s.last ≤ s'.last
  totalFloors_eq : b'.totalFloors = b.totalFloors ∨ b'.totalFloors = b'.floors.length
  number_lt : b'.floors.length < wordLimit → (∀ f ∈ b.floors, f.number < wordLimit) →
    ∀ f ∈ b'.floors, f.number < wordLimit

theorem Evolves.inWords (h : b.Evolves s b' s') (hlength : b'.floors.length < wordLimit)
    (hb : b.InWords) : b'.InWords := by
  refine ⟨?_, h.number_lt hlength hb.number_lt⟩
  rcases h.totalFloors_eq with htotal | htotal
  · rw [htotal]
    exact hb.totalFloors_lt
  · rw [htotal]
    exact hlength

theorem number_lt_of_floorNumbers (h : b'.floorNumbers = b.floorNumbers)
    (hb : ∀ f ∈ b.floors, f.number < wordLimit) : ∀ f ∈ b'.floors, f.number < wordLimit := by
  intro f hf
  have hmem : f.number ∈ b.floorNumbers := by
    rw [← h]
    exact List.mem_map_of_mem hf
  obtain ⟨g, hg, hnumber⟩ := List.mem_map.1 hmem
  rw [← hnumber]
  exact hb g hg

/-- An edit after another one that leaves all numbers alone. -/
theorem Evolves.then {s'' : Stamps} (h : b.Evolves s b' s') (hle : s'.last ≤ s''.last)
    (htotal : b''.totalFloors = b'.totalFloors) (hnumbers : b''.floorNumbers = b'.floorNumbers) :
    b.Evolves s b'' s'' := by
  have hlength := length_floors_eq hnumbers
  refine ⟨h.last_le.trans hle, ?_, fun hfits hb => ?_⟩
  · rw [htotal, hlength]
    exact h.totalFloors_eq
  · exact number_lt_of_floorNumbers hnumbers (h.number_lt (hlength ▸ hfits) hb)

theorem Evolves.refl (b : Building) (s : Stamps) : b.Evolves s b s :=
  ⟨le_rfl, Or.inl rfl, fun _ h => h⟩

/-- An edit that leaves all numbers alone. -/
theorem Evolves.of_floorNumbers (hle : s.last ≤ s'.last) (htotal : b'.totalFloors = b.totalFloors)
    (hnumbers : b'.floorNumbers = b.floorNumbers) : b.Evolves s b' s' :=
  (Evolves.refl b s).then hle htotal hnumbers

theorem floorNumbers_mapFloor (b : Building) (id : String) {edit : Floor → Floor}
    (h : ∀ f, (edit f).number = f.number) : (b.mapFloor id edit).floorNumbers = b.floorNumbers := by
  simp only [floorNumbers, mapFloor, List.map_map]
  refine List.map_congr_left fun f _ => ?_
  simp only [Function.comp_apply]
  split
  · exact h f
  · rfl

theorem floorNumbers_mapNumbered (b : Building) {number : Nat} {edit : Floor → Floor}
    (h : ∀ f, f.number = number → (edit f).number = number) :
    (b.mapNumbered number edit).floorNumbers = b.floorNumbers := by
  simp only [floorNumbers, mapNumbered, List.map_map]
  refine List.map_congr_left fun f _ => ?_
  simp only [Function.comp_apply]
  split
  · rename_i hf
    rw [h f hf, hf]
  · rfl

theorem Evolves.mapFloor (id : String) {edit : Floor → Floor} (hle : s.last ≤ s'.last)
    (h : ∀ f, (edit f).number = f.number) : b.Evolves s (b.mapFloor id edit) s' :=
  .of_floorNumbers hle rfl (b.floorNumbers_mapFloor id h)

/-- The numbers of floors that are added wrap around. -/
theorem Evolves.appendFloors (b : Building) (count : Nat) (clock : Clock) (s : Stamps) :
    b.Evolves s (b.appendFloors count clock s).1 (b.appendFloors count clock s).2 := by
  refine ⟨s.last_le_draw clock count, Or.inr rfl, fun _ hb f hf => ?_⟩
  rcases List.mem_append.1 hf with hf | hf
  · exact hb f hf
  · obtain ⟨x, -, rfl⟩ := List.mem_map.1 hf
    exact Nat.mod_lt _ (by decide)

theorem number_lt_renumber {floors : List Floor} (h : floors.length < wordLimit) :
    ∀ f ∈ Floorplan.renumber floors, f.number < wordLimit := by
  intro f hf
  have hmem : f.number ∈ (Floorplan.renumber floors).map (·.number) := List.mem_map_of_mem hf
  rw [map_number_renumber, List.mem_range'_1] at hmem
  omega

/-- Floors that are left over are counted as they are numbered. -/
theorem Evolves.renumber (b : Building) (s : Stamps) (floors : List Floor) :
    b.Evolves s (synced { b with floors := Floorplan.renumber floors }) s := by
  refine ⟨le_rfl, Or.inr rfl, fun hlength _ => number_lt_renumber ?_⟩
  rw [← length_renumber]
  exact hlength

end Building

/-- **What every edit does to numbers and stamps.** -/
theorem Edit.evolves (e : Edit) (b : Building) (clock : Clock) (s : Stamps) :
    b.Evolves s (e.applyTo b clock s).1 (e.applyTo b clock s).2 := by
  cases e with
  | addFloor => exact .appendFloors b 1 clock s
  | appendFloors count => exact .appendFloors b count clock s
  | removeFloor floor =>
    simp only [applyTo, Building.removeFloor]
    split
    · exact .refl b s
    · exact .renumber b s _
  | addComponent kind floor =>
    simp only [applyTo, Building.addComponent]
    cases hf : b.floorById? floor with
    | none => exact .refl b s
    | some f =>
      have hle := f.last_le_appendComponents kind 1 clock s
      -- The floor that grew takes the place of every floor of its id, with its own number.
      refine ⟨hle, Or.inl rfl, fun _ hb g hg => ?_⟩
      obtain ⟨old, hold, rfl⟩ := List.mem_map.1 hg
      split
      · rw [f.number_appendComponents]
        exact hb f (List.mem_of_find?_eq_some hf)
      · exact hb old hold
  | removeComponent kind floor component =>
    refine .mapFloor floor le_rfl fun f => ?_
    cases kind <;> rfl
  | addLift floor corridor => exact .mapFloor floor (s.last_le_next clock) fun _ => rfl
  | removeLift floor corridor lift => exact .mapFloor floor le_rfl fun _ => rfl
  | renameFloor floor name => exact .mapFloor floor le_rfl fun _ => rfl
  | renameComponent kind floor component name =>
    refine .mapFloor floor le_rfl fun f => ?_
    cases kind <;> rfl
  | renumber =>
    refine ⟨le_rfl, Or.inl rfl, fun hlength _ => Building.number_lt_renumber ?_⟩
    rw [← length_renumber]
    exact hlength
  | synced => exact ⟨le_rfl, Or.inr rfl, fun _ h => h⟩

/-! ## Collections -/

namespace Collection

variable {c : Collection}

theorem inWords_empty : empty.InWords := by
  simp [InWords, empty]

/-- A building that takes the place of others brings its own numbers, unless there is none that it
    replaces. -/
theorem InWords.withBuilding (h : c.InWords) (hfits : (c.withBuilding b).Fits)
    (hb : b.floors.length < wordLimit → b.InWords) : (c.withBuilding b).InWords := by
  intro x hx
  obtain ⟨old, hold, rfl⟩ := List.mem_map.1 hx
  have hlength := hfits _ hx
  split at hlength
  · rename_i hid
    rw [if_pos hid]
    exact hb hlength
  · rename_i hid
    rw [if_neg hid]
    exact h old hold

theorem InWords.withNewActive (h : c.InWords) (hb : b.InWords) : (c.withNewActive b).InWords := by
  intro x hx
  rcases List.mem_append.1 hx with hx | hx
  · exact h x hx
  · rw [List.mem_singleton.1 hx]
    exact hb

end Collection

end Floorplan
