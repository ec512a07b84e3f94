import Floorplan.Intent.Apply
import Floorplan.Proofs.Building.Lookup

set_option autoImplicit false

/-! # When an intent has no outcome

A saved building may hold anything: several floors of one number, numbers out of order, ids that occur
twice. Whatever it holds, only one thing can go wrong with it. A component is named on every floor of a
number, but only the first of these floors is looked at beforehand; a later one may be too short. That
floors are sorted, cut off and numbered anew is safe on every building, because the difference that says
how many are left never goes below zero (`Intent.removeFloorsFrom_eq`).

The main result is `Intent.apply_error_iff`, the exact condition. -/

namespace Floorplan

/-- The first floor of a number has a component of the kind at a place, counted from one, and a later
    floor of that number has none there. -/
def Building.LacksLater (b : Building) (kind : ComponentKind) (floor index : Nat) : Prop :=
  0 < index ∧ ∃ before f after, b.floors = before ++ f :: after ∧
    (∀ g ∈ before, g.number ≠ floor) ∧ f.number = floor ∧ index ≤ kind.countOn f ∧
    ∃ g ∈ after, g.number = floor ∧ kind.countOn g < index

namespace Intent

variable {intent : Intent} {c : Collection} {b : Building} {f : Floor} {kind : ComponentKind}
  {floor index : Nat} {name : String} {fault : Fault}

theorem difference_of_le {m n : Nat} (h : n ≤ m) : difference m n = .ok (m - n) := if_pos h

/-! ## Naming a component -/

/-- What fails on some items with the same fault fails on a list if one of these is in it. -/
theorem mapM_ite {α β ε : Type} (fails : α → Bool) (e : ε) (f : α → β) (items : List α) :
    items.mapM (fun a => if fails a then Except.error e else Except.ok (f a))
      = if items.any fails then .error e else .ok (items.map f) := by
  induction items with
  | nil => rfl
  | cons a items ih =>
    rw [List.mapM_cons, ih, List.any_cons]
    cases fails a <;> cases items.any fails <;> rfl

/-- Once the first floor of the number has been looked at, naming fails if any of that number is too
    short. -/
theorem nameComponent_eq (hf : b.floorByNumber? floor = some f) (hpos : 0 < index)
    (hle : index ≤ kind.countOn f) (name : String) :
    nameComponent b kind floor index name
      = if b.floors.any fun g => g.number = floor && kind.countOn g < index then
          .error .missingComponent
        else .ok (some (b.mapNumbered floor (renamedAt kind (index - 1) name)),
          .componentRenamed kind floor index name) := by
  have hfound : ¬ (index = 0 ∨ kind.countOn f < index) := by omega
  have hslot : difference index 1 = .ok (index - 1) := difference_of_le hpos
  have hnamed : (fun g : Floor =>
        if g.number = floor then nameAt kind (index - 1) name g else .ok g)
      = fun g => if g.number = floor && kind.countOn g < index then .error .missingComponent
          else .ok (if g.number = floor then renamedAt kind (index - 1) name g else g) := by
    funext g
    have hplace : index - 1 < kind.countOn g ↔ ¬ kind.countOn g < index := by omega
    by_cases hnumber : g.number = floor
    · by_cases hshort : kind.countOn g < index <;> simp [nameAt, hnumber, hplace, hshort]
    · simp [hnumber]
  simp only [nameComponent, hf, if_neg hfound, hslot, bind, Except.bind, hnamed, mapM_ite]
  cases b.floors.any fun g => g.number = floor && kind.countOn g < index <;> rfl

/-- Of the floors of the number the first one is long enough, so one that is too short comes later. -/
theorem lacksLater_iff (hf : b.floorByNumber? floor = some f) (hpos : 0 < index)
    (hle : index ≤ kind.countOn f) :
    b.LacksLater kind floor index
      ↔ b.floors.any fun g => g.number = floor && kind.countOn g < index := by
  simp only [List.any_eq_true, Bool.and_eq_true, decide_eq_true_eq]
  constructor
  · rintro ⟨-, before, f', after, hfloors, -, -, -, g, hg, hnumber, hshort⟩
    refine ⟨g, ?_, hnumber, hshort⟩
    rw [hfloors]
    exact List.mem_append_right _ (List.mem_cons_of_mem _ hg)
  · rintro ⟨g, hg, hnumber, hshort⟩
    obtain ⟨hfound, before, after, hfloors, hbefore⟩ := List.find?_eq_some_iff_append.1 hf
    refine ⟨hpos, before, f, after, hfloors, by simpa using hbefore, by simpa using hfound, hle, g,
      ?_, hnumber, hshort⟩
    rw [hfloors] at hg
    rcases List.mem_append.1 hg with hg | hg
    · simpa [hnumber] using hbefore g hg
    · rcases List.mem_cons.1 hg with rfl | hg
      · omega
      · exact hg

/-- **When naming a component fails.** -/
theorem nameComponent_error_iff :
    nameComponent b kind floor index name = .error fault
      ↔ fault = .missingComponent ∧ b.LacksLater kind floor index := by
  cases hf : b.floorByNumber? floor with
  | none =>
    simp only [nameComponent, hf]
    refine iff_of_false (by simp) ?_
    rintro ⟨-, -, before, f, after, hfloors, -, hnumber, -⟩
    refine Building.notMem_floorNumbers hf ?_
    rw [Building.floorNumbers, hfloors, ← hnumber]
    simp
  | some f =>
    by_cases hindex : index = 0 ∨ kind.countOn f < index
    · simp only [nameComponent, hf, if_pos hindex]
      refine iff_of_false (by simp) ?_
      rintro ⟨-, hpos, before, f', after, hfloors, hbefore, hnumber, hle, -⟩
      have hfirst : b.floorByNumber? floor = some f' := by
        refine List.find?_eq_some_iff_append.2 ⟨by simpa using hnumber, before, after, hfloors, ?_⟩
        simpa using hbefore
      cases hf.symm.trans hfirst
      omega
    · have hpos : 0 < index := by omega
      have hle : index ≤ kind.countOn f := by omega
      rw [nameComponent_eq hf hpos hle, lacksLater_iff hf hpos hle]
      split
      · rename_i hshort
        simp only [Except.error.injEq, hshort, and_true]
        exact eq_comm
      · rename_i hfine
        exact iff_of_false (by simp) fun h => hfine h.2

/-! ## Removing floors -/

/-- What removing floors comes to on every building. -/
def shortened (b : Building) (count : Nat) : Option Building × Reply :=
  let removable := min count (b.floors.length - 1)
  if removable = 0 then (none, .lastFloor)
  else
    let sorted := b.floors.mergeSort fun f g => f.number ≤ g.number
    let kept := sorted.take (b.floors.length - removable)
    let updated := Building.synced { b with floors := renumber kept }
    (some updated, .floorsRemoved removable updated.totalFloors)

/-- **Removing floors never fails**: no more are taken away than there are. -/
theorem removeFloorsFrom_eq (b : Building) (count : Nat) :
    removeFloorsFrom b count = .ok (shortened b count) := by
  have hleft : difference b.floors.length (min count (b.floors.length - 1))
      = .ok (b.floors.length - min count (b.floors.length - 1)) := difference_of_le (by omega)
  simp only [removeFloorsFrom, shortened, List.length_mergeSort, hleft]
  split <;> rfl

/-! ## All intents -/

theorem onActiveChecked_ok (c : Collection) (edit : Building → Option Building × Reply) :
    onActiveChecked c (fun b => .ok (edit b)) = .ok (onActive c edit) := by
  unfold onActiveChecked onActive
  split <;> rfl

theorem onActiveChecked_error_iff {edit : Building → Except Fault (Option Building × Reply)} :
    onActiveChecked c edit = .error fault ↔ ∃ b, c.active? = some b ∧ edit b = .error fault := by
  unfold onActiveChecked
  split
  · rename_i hnone
    simp [hnone]
  · rename_i b hb
    cases hedit : edit b with
    | error e => simp [hb, hedit, bind, Except.bind]
    | ok result => simp [hb, hedit, bind, Except.bind, pure, Except.pure]

theorem carryOut_removeFloors (c : Collection) (clock : Clock) (s : Stamps) (count : Nat) :
    (removeFloors count).carryOut c clock s = .ok (onActive c (shortened · count), s) := by
  simp only [carryOut, removeFloorsFrom_eq, onActiveChecked_ok]
  rfl

/-- The intent names a component that the first floor of its number has, but not every later one. -/
def Misses (c : Collection) : Intent → Prop
  | renameComponent kind floor index _ => ∃ b, c.active? = some b ∧ b.LacksLater kind floor index
  | _ => False

theorem carryOut_error_iff {clock : Clock} {s : Stamps} :
    intent.carryOut c clock s = .error fault ↔ fault = .missingComponent ∧ intent.Misses c := by
  cases intent with
  | renameComponent kind floor index name =>
    have hmap : (renameComponent kind floor index name).carryOut c clock s = .error fault
        ↔ onActiveChecked c (nameComponent · kind floor index name) = .error fault := by
      simp only [carryOut]
      cases onActiveChecked c (nameComponent · kind floor index name) <;> simp [Except.map]
    rw [hmap, onActiveChecked_error_iff]
    simp only [nameComponent_error_iff, Misses]
    constructor
    · rintro ⟨b, hb, hfault, hlacks⟩
      exact ⟨hfault, b, hb, hlacks⟩
    · rintro ⟨hfault, b, hb, hlacks⟩
      exact ⟨b, hb, hfault, hlacks⟩
  | removeFloors count =>
    rw [carryOut_removeFloors]
    simp [Misses]
  | bulkRename target names => cases target <;> simp [carryOut, Misses]
  | _ => simp [carryOut, Misses]

/-- A quantity that is refused is not looked at any further, and what names a component has none. -/
theorem apply_error_iff_misses {clock : Clock} {s : Stamps} :
    intent.apply c clock s = .error fault ↔ fault = .missingComponent ∧ intent.Misses c := by
  unfold apply
  split
  · rename_i n hn
    refine iff_of_false (by simp) fun h => ?_
    cases intent with
    | renameComponent => simp [requested?] at hn
    | _ => exact h.2
  · exact carryOut_error_iff

/-- Where the floors have different numbers, the first floor of a number is the only one. -/
theorem not_misses_of_nodup (h : ∀ b, c.active? = some b → b.floorNumbers.Nodup) :
    ¬ intent.Misses c := by
  intro hmisses
  cases intent with
  | renameComponent kind floor index name =>
    obtain ⟨b, hb, -, before, f, after, hfloors, -, hf, -, g, hg, hnumber, -⟩ := hmisses
    have hnodup := h b hb
    rw [Building.floorNumbers, hfloors, List.map_append, List.map_cons] at hnodup
    have htail := (List.nodup_append.1 hnodup).2.1
    refine (List.nodup_cons.1 htail).1 ?_
    rw [hf, ← hnumber]
    exact List.mem_map_of_mem hg
  | _ => exact hmisses

/-- An intent has an outcome if the floors of the active building have different numbers. -/
theorem apply_ok (h : ∀ b, c.active? = some b → b.floorNumbers.Nodup) (intent : Intent)
    (clock : Clock) (s : Stamps) : ∃ o s', intent.apply c clock s = .ok (o, s') := by
  cases hresult : intent.apply c clock s with
  | error fault => exact absurd (apply_error_iff_misses.1 hresult).2 (not_misses_of_nodup h)
  | ok result => exact ⟨result.1, result.2, rfl⟩

/-- **When an intent has no outcome.** Whatever the collection holds and whatever stamps have been
    drawn, carrying out an intent fails if and only if it names a component that the first floor of its
    number has and a later floor of that number has not; and it has an outcome if the floors of the
    active building have different numbers. -/
theorem apply_error_iff (intent : Intent) (c : Collection) (clock : Clock) (s : Stamps) :
    (∀ fault, intent.apply c clock s = .error fault
        ↔ fault = .missingComponent ∧ intent.Misses c) ∧
      ((∀ b, c.active? = some b → b.floorNumbers.Nodup) →
        ∃ o s', intent.apply c clock s = .ok (o, s')) :=
  ⟨fun _ => apply_error_iff_misses, fun h => apply_ok h intent clock s⟩

/-- A building of two floors of given numbers, of which the first has two restrooms and the second
    one. -/
def lopsided (lower upper : Nat) : Building :=
  { id := "building-1", name := "Tower", totalFloors := 2
    floors := [.generate "lower" lower 2 0 0, .generate "upper" upper 1 0 0] }

theorem lopsided_apply_error :
    (renameComponent .restroom 1 2 "Main").apply (Collection.empty.withNewActive (lopsided 1 1))
        (.still 0) {} = .error .missingComponent ∧
      ∃ o s', (renameComponent .restroom 1 2 "Main").apply
        (Collection.empty.withNewActive (lopsided 1 2)) (.still 0) {} = .ok (o, s') := by
  have hlacks : (lopsided 1 1).LacksLater .restroom 1 2 :=
    ⟨by decide, [], .generate "lower" 1 2 0 0, [.generate "upper" 1 1 0 0], rfl, by simp, rfl,
      by decide, _, List.mem_singleton_self _, rfl, by decide⟩
  refine ⟨((apply_error_iff _ _ _ _).1 _).2 ⟨rfl, lopsided 1 1, rfl, hlacks⟩,
    (apply_error_iff _ _ _ _).2 fun b hb => ?_⟩
  obtain rfl := Option.some.inj hb
  decide

end Intent

end Floorplan
