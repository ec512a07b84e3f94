import Floorplan.Proofs.Building.Additive

set_option autoImplicit false

/-! # Intents one after the other

`Intent.applyAll` carries out intents in a row, each on what the one before it has left. An edit of the
active building that is followed by another one leaves only what the second makes of the building
(`Collection.withBuilding_withBuilding`), so what holds of a building when its edits follow each other
holds of the collection.

The main result is `Intent.quantities_add_up`: two additions of floors, two additions of components to a
floor and two removals of floors come to one with the sum, and a removal takes back an addition. -/

namespace Floorplan

variable {c : Collection} {clock : Clock} {s s' : Stamps} {b b' : Building}

namespace Intent

variable {intent : Intent} {intents : List Intent} {m n : Nat}

/-- The collection and the stamps after some intents, each carried out on what the one before it has
left; an intent that changes nothing leaves the collection as it was. -/
def applyAll (clock : Clock) :
    List Intent → Collection → Stamps → Except Fault (Collection × Stamps)
  | [], c, s => .ok (c, s)
  | intent :: intents, c, s =>
    match intent.apply c clock s with
    | .ok (o, s) => applyAll clock intents (o.collection.getD c) s
    | .error fault => .error fault

/-- Both lists of intents can be carried out, and they leave the same collection and stamps. -/
def SameResult (clock : Clock) (c : Collection) (s : Stamps) (intents others : List Intent) : Prop :=
  ∃ r, applyAll clock intents c s = .ok r ∧ applyAll clock others c s = .ok r

/-- The intent puts a building in the place of the active one. -/
def Puts (intent : Intent) (c : Collection) (clock : Clock) (s : Stamps) (b : Building)
    (s' : Stamps) : Prop :=
  ∃ o, intent.apply c clock s = .ok (o, s') ∧ o.collection.getD c = c.withBuilding b

theorem Puts.applyAll_cons (h : intent.Puts c clock s b s') (intents : List Intent) :
    applyAll clock (intent :: intents) c s = applyAll clock intents (c.withBuilding b) s' := by
  obtain ⟨o, happly, hcollection⟩ := h
  rw [applyAll, happly]
  exact congrArg (applyAll clock intents · s') hcollection

theorem Puts.applyAll_single (h : intent.Puts c clock s b s') :
    applyAll clock [intent] c s = .ok (c.withBuilding b, s') := h.applyAll_cons []

/-- Of two intents that put buildings in the same place the second decides. -/
theorem Puts.applyAll_pair {second : Intent} {s'' : Stamps} (h : intent.Puts c clock s b s')
    (hsecond : second.Puts (c.withBuilding b) clock s' b' s'') (hid : b'.id = b.id) :
    applyAll clock [intent, second] c s = .ok (c.withBuilding b', s'') := by
  rw [h.applyAll_cons, hsecond.applyAll_single, Collection.withBuilding_withBuilding c hid]

/-- The intents turn the active building into others in turn, the last of which is the second one. -/
inductive Row (clock : Clock) : List Intent → Building → Stamps → Building → Stamps → Prop
  | nil (b : Building) (s : Stamps) : Row clock [] b s b s
  | cons {intent : Intent} {intents : List Intent} {b b' b'' : Building} {s s' s'' : Stamps}
      (hputs : ∀ c : Collection, c.active? = some b → intent.Puts c clock s b' s') (hid : b'.id = b.id)
      (hrow : Row clock intents b' s' b'' s'') : Row clock (intent :: intents) b s b'' s''

theorem Row.append {others : List Intent} {b'' : Building} {s'' : Stamps}
    (h : Row clock intents b s b' s') (hothers : Row clock others b' s' b'' s'') :
    Row clock (intents ++ others) b s b'' s'' := by
  induction h with
  | nil b s => exact hothers
  | cons hputs hid _ ih => exact .cons hputs hid (ih hothers)

theorem Row.id_eq (h : Row clock intents b s b' s') : b'.id = b.id := by
  induction h with
  | nil b s => rfl
  | cons hputs hid _ ih => exact ih.trans hid

/-- After a row of intents the last building stands in the place of the first, and if there is none the
collection is as it was. -/
theorem Row.applyAll_eq (h : Row clock intents b s b' s') (hb : c.active? = some b) :
    applyAll clock intents c s = .ok (if intents = [] then c else c.withBuilding b', s') := by
  induction h generalizing c with
  | nil b s => rfl
  | @cons intent intents b b₁ b₂ s s₁ s₂ hputs hid hrow ih =>
    rw [(hputs c hb).applyAll_cons, ih (Collection.active?_withBuilding hb hid),
      Collection.withBuilding_withBuilding c hrow.id_eq, if_neg (List.cons_ne_nil intent intents)]
    cases hrow with
    | nil => simp
    | cons => rfl

/-! ## What the additions and removals put in place -/

theorem apply_of_le (h : ∀ k, intent.requested? = some k → k ≤ maxQuantity) (c : Collection)
    (clock : Clock) (s : Stamps) : intent.apply c clock s = intent.carryOut c clock s := by
  have hnone : intent.requested?.filter (maxQuantity < ·) = none := by
    rw [Option.filter_eq_none_iff]
    exact fun k hk => by simpa using h k hk
  rw [apply, hnone]

/-- What an edit that may draw stamps makes of the active building is put in its place. -/
theorem puts_of_edit {edit : Building → Stamps → (Option Building × Reply) × Stamps} {reply : Reply}
    (hb : c.active? = some b) (hquantity : ∀ k, intent.requested? = some k → k ≤ maxQuantity)
    (hcarryOut : intent.carryOut c clock s = .ok (onActiveStamped c s edit))
    (hedit : edit b s = ((some b', reply), s')) : intent.Puts c clock s b' s' := by
  refine ⟨⟨some (c.withBuilding b'), reply⟩, ?_, rfl⟩
  rw [apply_of_le hquantity, hcarryOut, onActiveStamped, hb]
  simp only [hedit]
  rfl

theorem puts_addFloors (hb : c.active? = some b) (hn : n ≤ maxQuantity) (clock : Clock)
    (s : Stamps) :
    (addFloors n).Puts c clock s (b.appendFloors n clock s).1 (b.appendFloors n clock s).2 :=
  puts_of_edit hb (fun _ hk => Option.some.inj hk ▸ hn) rfl rfl

theorem puts_addComponents {f : Floor} {floor : Nat} (hb : c.active? = some b)
    (hf : b.floorByNumber? floor = some f) (hn : n ≤ maxQuantity) (kind : ComponentKind)
    (clock : Clock) (s : Stamps) :
    (addComponents kind n (some floor)).Puts c clock s
      (b.mapNumbered floor fun _ => (f.appendComponents kind n clock s).1)
      (f.appendComponents kind n clock s).2 := by
  have hedit : addComponentsTo b kind n (some floor) clock s =
      ((some (b.mapNumbered floor fun _ => (f.appendComponents kind n clock s).1),
        .componentsAdded kind n (some floor)), (f.appendComponents kind n clock s).2) := by
    simp only [addComponentsTo, hf]
  exact puts_of_edit hb (fun _ hk => Option.some.inj hk ▸ hn) rfl hedit

theorem puts_addEverywhere (hb : c.active? = some b) (hn : n ≤ maxQuantity) (kind : ComponentKind)
    (clock : Clock) (s : Stamps) :
    (addComponents kind n none).Puts c clock s (appendEverywhere b kind n clock s).1
      (appendEverywhere b kind n clock s).2 :=
  puts_of_edit hb (fun _ hk => Option.some.inj hk ▸ hn) rfl rfl

theorem applyAll_addComponents_of_missing {floor : Nat} (hb : c.active? = some b)
    (hf : b.floorByNumber? floor = none) (hn : n ≤ maxQuantity) (kind : ComponentKind)
    (clock : Clock) (s : Stamps) (intents : List Intent) :
    applyAll clock (addComponents kind n (some floor) :: intents) c s = applyAll clock intents c s := by
  have happly : (addComponents kind n (some floor)).apply c clock s =
      .ok (unchanged (.unknownFloor floor), s) := by
    have hquantity : ∀ k, (addComponents kind n (some floor)).requested? = some k →
        k ≤ maxQuantity := fun _ hk => Option.some.inj hk ▸ hn
    rw [apply_of_le hquantity, carryOut, onActiveStamped, hb]
    simp only [addComponentsTo, hf]
    rfl
  rw [applyAll, happly]
  rfl

/-- Where ids are distinct, what a removal leaves is in place, even if that is the building that stood
there. -/
theorem puts_removeFloors (hids : (c.buildings.map (·.id)).Nodup) (hb : c.active? = some b) (n : Nat)
    (clock : Clock) (s : Stamps) :
    (removeFloors n).Puts c clock s (b.withoutTop n) s := by
  have hnone : ∀ k, (removeFloors n).requested? = some k → k ≤ maxQuantity := by
    intro k hk
    cases hk
  refine ⟨onActive c (shortened · n), ?_, ?_⟩
  · rw [apply_of_le hnone, carryOut_removeFloors]
  · simp only [onActive, hb, shortened, Building.withoutTop]
    split
    · exact (Collection.withBuilding_self hids hb).symm
    · rfl

/-- The same after another building has been put in place. -/
theorem puts_removeFloors_of_active (hids : (c.buildings.map (·.id)).Nodup) (hb : c.active? = some b)
    (hid : b'.id = b.id) (n : Nat) (clock : Clock) (s : Stamps) :
    (removeFloors n).Puts (c.withBuilding b') clock s (b'.withoutTop n) s := by
  refine puts_removeFloors ?_ (Collection.active?_withBuilding hb hid) n clock s
  rwa [Collection.map_id_withBuilding]

/-! ## Sums -/

theorem addFloors_add (hb : c.active? = some b) (hmax : b.maxFloorNumber + maxQuantity < wordLimit)
    (hquantity : m + n ≤ maxQuantity) (clock : Clock) (s : Stamps) :
    SameResult clock c s [addFloors m, addFloors n] [addFloors (m + n)] := by
  have hfirst := puts_addFloors hb (Nat.le_of_add_right_le hquantity) clock s
  have hactive : (c.withBuilding (b.appendFloors m clock s).1).active? =
      some (b.appendFloors m clock s).1 := Collection.active?_withBuilding hb rfl
  have hsecond := puts_addFloors hactive (Nat.le_of_add_left_le hquantity) clock
    (b.appendFloors m clock s).2
  rw [Building.appendFloors_add (by omega)] at hsecond
  exact ⟨_, hfirst.applyAll_pair hsecond rfl, (puts_addFloors hb hquantity clock s).applyAll_single⟩

theorem addComponents_add (hb : c.active? = some b) (hquantity : m + n ≤ maxQuantity)
    (kind : ComponentKind) (floor : Nat) (clock : Clock) (s : Stamps) :
    SameResult clock c s [addComponents kind m (some floor), addComponents kind n (some floor)]
      [addComponents kind (m + n) (some floor)] := by
  have hm := Nat.le_of_add_right_le hquantity
  have hn := Nat.le_of_add_left_le hquantity
  cases hf : b.floorByNumber? floor with
  | none =>
    refine ⟨(c, s), ?_, ?_⟩
    · rw [applyAll_addComponents_of_missing hb hf hm, applyAll_addComponents_of_missing hb hf hn]
      rfl
    · rw [applyAll_addComponents_of_missing hb hf hquantity]
      rfl
  | some f =>
    have hnumber := Building.number_eq_of_floorByNumber? hf
    have hgrown : (f.appendComponents kind m clock s).1.number = floor := by
      cases kind <;> exact hnumber
    have hfirst := puts_addComponents hb hf hm kind clock s
    have hactive : (c.withBuilding
        (b.mapNumbered floor fun _ => (f.appendComponents kind m clock s).1)).active? =
          some (b.mapNumbered floor fun _ => (f.appendComponents kind m clock s).1) :=
      Collection.active?_withBuilding hb rfl
    have hsecond := puts_addComponents hactive
      (Building.floorByNumber?_mapNumbered (fun _ _ => hgrown) hf) hn kind clock
      (f.appendComponents kind m clock s).2
    rw [Floor.appendComponents_add, Building.mapNumbered_const_twice hgrown] at hsecond
    exact ⟨_, hfirst.applyAll_pair hsecond rfl,
      (puts_addComponents hb hf hquantity kind clock s).applyAll_single⟩

theorem removeFloors_add (hids : (c.buildings.map (·.id)).Nodup) (hb : c.active? = some b)
    (m n : Nat) (clock : Clock) (s : Stamps) :
    SameResult clock c s [removeFloors m, removeFloors n] [removeFloors (m + n)] := by
  have hsecond := puts_removeFloors_of_active hids hb (Building.id_withoutTop b m) n clock s
  rw [Building.withoutTop_withoutTop] at hsecond
  exact ⟨_, (puts_removeFloors hids hb m clock s).applyAll_pair hsecond
    (by rw [Building.id_withoutTop, Building.id_withoutTop]),
    (puts_removeFloors hids hb (m + n) clock s).applyAll_single⟩

/-- A removal takes back an addition. -/
theorem removeFloors_addFloors (hids : (c.buildings.map (·.id)).Nodup) (hb : c.active? = some b)
    (hcounted : b.Counted) (hfloors : 1 ≤ b.floors.length)
    (hmax : b.maxFloorNumber + maxQuantity < wordLimit) (hn : n ≤ maxQuantity) (clock : Clock)
    (s : Stamps) :
    (applyAll clock [addFloors n, removeFloors n] c s).map Prod.fst = .ok c := by
  rw [hcounted.maxFloorNumber_eq] at hmax
  have hid : (b.appendFloors n clock s).1.id = b.id := rfl
  have hsecond := puts_removeFloors_of_active hids hb hid n clock (b.appendFloors n clock s).2
  rw [Building.withoutTop_appendFloors hcounted hfloors (by omega)] at hsecond
  rw [(puts_addFloors hb hn clock s).applyAll_pair hsecond rfl,
    Collection.withBuilding_self hids hb]
  rfl

/-- **Quantities add up, and a removal takes back an addition.** -/
theorem quantities_add_up (hids : (c.buildings.map (·.id)).Nodup) (hb : c.active? = some b)
    (hmax : b.maxFloorNumber < wordLimit - 100) (clock : Clock) (s : Stamps) :
    (∀ m n, m + n ≤ maxQuantity →
      SameResult clock c s [addFloors m, addFloors n] [addFloors (m + n)]) ∧
    (∀ kind floor m n, m + n ≤ maxQuantity → b.floorNumbers.Nodup →
      SameResult clock c s [addComponents kind m (some floor), addComponents kind n (some floor)]
        [addComponents kind (m + n) (some floor)]) ∧
    (∀ m n, m + n < wordLimit →
      SameResult clock c s [removeFloors m, removeFloors n] [removeFloors (m + n)]) ∧
    (∀ n, n ≤ maxQuantity → 1 ≤ b.floors.length → b.totalFloors = b.floors.length →
      b.floorNumbers = List.range' 1 b.floors.length →
      (applyAll clock [addFloors n, removeFloors n] c s).map Prod.fst = .ok c) := by
  have hfits : b.maxFloorNumber + maxQuantity < wordLimit := by
    simp only [maxQuantity]
    omega
  refine ⟨fun m n h => addFloors_add hb hfits h clock s, fun kind floor m n h _ =>
    addComponents_add hb h kind floor clock s, fun m n _ => removeFloors_add hids hb m n clock s,
    fun n h hfloors htotal hnumbers => ?_⟩
  exact removeFloors_addFloors hids hb ⟨htotal, hnumbers⟩ hfloors hfits h clock s

/-- A building of two floors. -/
def cottage : Building := .generate "building-2" "Cottage" 2 1 1 1

/-- A collection with a barn and the cottage, which is active. -/
def farm : Collection :=
  (Collection.empty.withNewActive (.generate "building-1" "Barn" 1 1 1 1)).withNewActive cottage

theorem farm_add_up :
    (farm.buildings.map (·.id)).Nodup ∧ farm.active? = some cottage ∧
      cottage.maxFloorNumber < wordLimit - 100 ∧
      SameResult (.still 1000) farm {} [addFloors 1, addFloors 2] [addFloors 3] ∧
      SameResult (.still 1000) farm {}
        [addComponents .restroom 1 (some 2), addComponents .restroom 2 (some 2)]
        [addComponents .restroom 3 (some 2)] ∧
      SameResult (.still 1000) farm {} [removeFloors 1, removeFloors 4] [removeFloors 5] ∧
      (applyAll (.still 1000) [addFloors 3, removeFloors 3] farm {}).map Prod.fst = .ok farm := by
  have hids : (farm.buildings.map (·.id)).Nodup := by decide
  have hmax : cottage.maxFloorNumber < wordLimit - 100 := by decide
  obtain ⟨hfloors, hcomponents, hremovals, hback⟩ :=
    quantities_add_up hids (b := cottage) rfl hmax (.still 1000) {}
  exact ⟨hids, rfl, hmax, hfloors 1 2 (by decide), hcomponents .restroom 2 1 2 (by decide) (by decide),
    hremovals 1 4 (by decide), hback 3 (by decide) (by decide) rfl rfl⟩

end Intent

end Floorplan
