import Floorplan.Proofs.Building.Siblings

set_option autoImplicit false

/-! # Where siblings come from

What every edit of a building does to the siblings in it: some are taken away, or some are added after
the last, or they are fresh, on a new floor or in a new corridor (`Edit.arises_applyTo`). -/

namespace Floorplan

open Siblings (Fresh Thins Grows Follows)

variable {r : Siblings → Siblings → Prop} {k m n : Nat}

/-! ## Floors -/

theorem Corridor.fresh_generate (building floor id : String) (index : Nat) {lifts : Nat}
    (h : lifts ≤ k) : ((Corridor.generate id index lifts).siblings building floor).Fresh k := by
  refine ⟨lifts, h, ?_⟩
  simp only [Corridor.siblings, Corridor.generate, List.map_map]
  rfl

namespace Floor

variable {f g : Floor}

theorem forall_siblings (f : Floor) (building : String) (p : Siblings → Prop) :
    (∀ x ∈ f.siblings building, p x) ↔
      p ⟨.restrooms building f.id, f.restrooms.map (·.position)⟩ ∧
      p ⟨.corridors building f.id, f.corridors.map (·.position)⟩ ∧
      ∀ c ∈ f.corridors, p (c.siblings building f.id) := by
  simp only [siblings, List.forall_mem_cons, List.forall_mem_map]

/-- What is on a floor arises kind by kind. -/
theorem arises (building : String) (hid : g.id = f.id)
    (hrestrooms : r ⟨.restrooms building f.id, f.restrooms.map (·.position)⟩
      ⟨.restrooms building f.id, g.restrooms.map (·.position)⟩)
    (hcorridors : r ⟨.corridors building f.id, f.corridors.map (·.position)⟩
      ⟨.corridors building f.id, g.corridors.map (·.position)⟩)
    (hlifts : ∀ d ∈ g.corridors, (d.siblings building f.id).Fresh k ∨
      ∃ c ∈ f.corridors, r (c.siblings building f.id) (d.siblings building f.id)) :
    Arises (Fresh k) r (f.siblings building) (g.siblings building) := by
  have hthere := (f.forall_siblings building (· ∈ f.siblings building)).1 fun _ hx => hx
  refine (g.forall_siblings building _).2 ⟨?_, ?_, fun d hd => ?_⟩ <;> rw [hid]
  · exact Or.inr ⟨_, hthere.1, hrestrooms⟩
  · exact Or.inr ⟨_, hthere.2.1, hcorridors⟩
  · exact (hlifts d hd).imp_right fun ⟨c, hc, hcd⟩ => ⟨_, hthere.2.2 c hc, hcd⟩

theorem siblings_eq (building : String) (hid : g.id = f.id)
    (hrestrooms : g.restrooms.map (·.position) = f.restrooms.map (·.position))
    (hcorridors : g.corridors.map (fun c => (c.id, c.position, c.lifts))
      = f.corridors.map fun c => (c.id, c.position, c.lifts)) :
    g.siblings building = f.siblings building := by
  have hpositions := congrArg (List.map (·.2.1)) hcorridors
  have hlifts := congrArg (List.map fun x =>
    Siblings.mk (.lifts building f.id x.1 x.2.1.y) (x.2.2.map (·.position))) hcorridors
  simp only [List.map_map, Function.comp_def] at hpositions hlifts
  simp only [siblings, hid, hrestrooms, hpositions]
  exact congrArg _ (congrArg _ hlifts)

/-- What is added to a row. -/
theorem grows_append {α : Type} (owner : Owner) (items : List α) (position : α → Position)
    (make : Nat → Nat → α) (hmake : ∀ stamp i, position (make stamp i) = owner.place i)
    (drawn : List Nat) :
    Grows drawn.length ⟨owner, items.map position⟩
      ⟨owner, (items ++ drawn.zipIdx.map fun x => make x.1 (items.length + x.2)).map position⟩ := by
  refine ⟨rfl, drawn.length, le_rfl, ?_⟩
  have hadded : (drawn.zipIdx.map fun x => position (make x.1 (items.length + x.2)))
      = (List.range drawn.length).map fun i => owner.place (items.length + i) := by
    rw [← map_zipIdx_snd drawn]
    exact List.map_congr_left fun x _ => hmake x.1 _
  simp only [List.map_append, List.map_map, List.length_map, List.range'_eq_map_range]
  exact congrArg _ hadded

theorem fresh_generate (building id : String) (number : Nat) {restrooms corridors lifts : Nat}
    (hrestrooms : restrooms ≤ k) (hcorridors : corridors ≤ k) (hlifts : lifts ≤ k) :
    ∀ x ∈ (generate id number restrooms corridors lifts).siblings building, x.Fresh k := by
  refine (forall_siblings _ building _).2 ⟨⟨restrooms, hrestrooms, ?_⟩, ⟨corridors, hcorridors, ?_⟩,
    fun d hd => ?_⟩
  · simp only [generate, List.map_map]
    rfl
  · simp only [generate, List.map_map]
    rfl
  · obtain ⟨j, -, rfl⟩ := List.mem_map.1 hd
    exact Corridor.fresh_generate _ _ _ _ hlifts

theorem arises_appendComponents (building : String) (f : Floor) (kind : ComponentKind) (count : Nat)
    (clock : Clock) (s : Stamps) :
    Arises (Fresh defaultLifts) (Grows count) (f.siblings building)
      ((f.appendComponents kind count clock s).1.siblings building) := by
  have hlength := Stamps.length_draw s clock count
  cases kind with
  | restroom =>
    refine arises building rfl ?_ (.refl count _) fun c hc => Or.inr ⟨c, hc, .refl count _⟩
    have hgrows := grows_append (.restrooms building f.id) f.restrooms (·.position)
      (fun stamp => Restroom.generate (f.id ++ "-restroom-" ++ toString stamp)) (fun _ _ => rfl)
      (s.draw clock count).1
    rwa [hlength] at hgrows
  | corridor =>
    refine arises building rfl (.refl count _) ?_ fun d hd => ?_
    · have hgrows := grows_append (.corridors building f.id) f.corridors (·.position)
        (fun stamp i => Corridor.generate (f.id ++ "-corridor-" ++ toString stamp) i defaultLifts)
        (fun _ _ => rfl) (s.draw clock count).1
      rwa [hlength] at hgrows
    · rcases List.mem_append.1 hd with hd | hd
      · exact Or.inr ⟨d, hd, .refl count _⟩
      · obtain ⟨x, -, rfl⟩ := List.mem_map.1 hd
        exact Or.inl (Corridor.fresh_generate _ _ _ _ le_rfl)

theorem arises_removeComponent (building : String) (f : Floor) (kind : ComponentKind) (id : String) :
    Arises (Fresh k) Thins (f.siblings building) ((f.removeComponent kind id).siblings building) := by
  cases kind with
  | restroom =>
    exact arises building rfl ⟨rfl, List.filter_sublist.map _⟩ (.refl _) fun c hc =>
      Or.inr ⟨c, hc, .refl _⟩
  | corridor =>
    exact arises building rfl (.refl _) ⟨rfl, List.filter_sublist.map _⟩ fun c hc =>
      Or.inr ⟨c, List.mem_of_mem_filter hc, .refl _⟩

theorem arises_mapRestroom (building : String) (f : Floor) (id : String) {edit : Restroom → Restroom}
    (hr : ∀ x, r x x) (hposition : ∀ c, (edit c).position = c.position) :
    Arises (Fresh k) r (f.siblings building) ((f.mapRestroom id edit).siblings building) := by
  refine .of_eq hr (siblings_eq building rfl ?_ rfl)
  rw [mapRestroom, List.map_map]
  refine List.map_congr_left fun c _ => ?_
  simp only [Function.comp_apply]
  split
  · exact hposition c
  · rfl

/-- Only the lifts of a corridor are different. -/
theorem arises_mapCorridor (building : String) (f : Floor) (id : String) {edit : Corridor → Corridor}
    (hr : ∀ x, r x x) (hposition : ∀ c, (edit c).position = c.position)
    (hedit : ∀ c, r (c.siblings building f.id) ((edit c).siblings building f.id)) :
    Arises (Fresh k) r (f.siblings building) ((f.mapCorridor id edit).siblings building) := by
  refine arises building rfl (hr _) ?_ (List.forall_mem_map.2 fun c hc => Or.inr ⟨c, hc, ?_⟩)
  · have hsame : (f.mapCorridor id edit).corridors.map (·.position)
        = f.corridors.map (·.position) := by
      rw [mapCorridor, List.map_map]
      refine List.map_congr_left fun c _ => ?_
      simp only [Function.comp_apply]
      split
      · exact hposition c
      · rfl
    rw [hsame]
    exact hr _
  · split
    · exact hedit c
    · exact hr _

theorem address_eq {building : String} {x : Siblings} (hx : x ∈ f.siblings building) :
    x.owner.address = (building, f.id) := by
  refine (f.forall_siblings building (·.owner.address = (building, f.id))).2 ⟨rfl, rfl, ?_⟩ x hx
  exact fun _ _ => rfl

/-- On a floor with distinct ids, siblings are told apart by their owners. -/
theorem WellFormed.eq_of_owner_eq (h : f.WellFormed) {building : String} {x y : Siblings}
    (hx : x ∈ f.siblings building) (hy : y ∈ f.siblings building) (howner : y.owner = x.owner) :
    y = x := by
  simp only [siblings, List.mem_cons, List.mem_map] at hx hy
  rcases hx with rfl | rfl | ⟨c, hc, rfl⟩
  · rcases hy with rfl | rfl | ⟨d, -, rfl⟩ <;> first | rfl | cases howner
  · rcases hy with rfl | rfl | ⟨d, -, rfl⟩ <;> first | rfl | cases howner
  · rcases hy with rfl | rfl | ⟨d, hd, rfl⟩
    · cases howner
    · cases howner
    · have hid : d.id = c.id := (Owner.lifts.inj howner).2.2.1
      rw [List.inj_on_of_nodup_map h.corridorIds hd hc hid]

end Floor

/-! ## Buildings -/

theorem Building.arises_mapFloor (hr : ∀ x, r x x) {b : Building} (id : String) {edit : Floor → Floor}
    (h : ∀ f, Arises (Fresh k) r (f.siblings b.id) ((edit f).siblings b.id)) :
    Arises (Fresh k) r b.siblings (b.mapFloor id edit).siblings :=
  .map_floors hr fun f hf _ => ⟨f, hf, h f⟩

theorem Building.arises_appendFloors (hr : ∀ x, r x x) (b : Building) (count : Nat) (clock : Clock)
    (s : Stamps) : Arises (Fresh 2) r b.siblings (b.appendFloors count clock s).1.siblings :=
  .appendFloors hr (fun _ _ => Floor.fresh_generate _ _ _ le_rfl le_rfl le_rfl) b count clock s

theorem Building.fresh_generate (id name : String) {floors restrooms corridors lifts : Nat}
    (hrestrooms : restrooms ≤ k) (hcorridors : corridors ≤ k) (hlifts : lifts ≤ k) :
    ∀ x ∈ (generate id name floors restrooms corridors lifts).siblings, x.Fresh k := by
  intro x hx
  obtain ⟨f, hf, hx⟩ := List.mem_flatMap.1 hx
  obtain ⟨i, -, rfl⟩ := List.mem_map.1 hf
  exact Floor.fresh_generate _ _ _ hrestrooms hcorridors hlifts x hx

/-! ## Edits -/

/-- **What an edit does to siblings**: some are taken away, or some are added after the last, or a part
    of the building is new. -/
theorem Edit.arises_applyTo (e : Edit) (b : Building) (clock : Clock) (s : Stamps) :
    Arises (Fresh 2) Follows b.siblings (e.applyTo b clock s).1.siblings := by
  cases e with
  | addFloor => exact b.arises_appendFloors .refl 1 clock s
  | appendFloors count => exact b.arises_appendFloors .refl count clock s
  | removeFloor floor =>
    simp only [applyTo, Building.removeFloor]
    split
    · exact .refl .refl _
    · exact .renumber .refl (fun _ _ => rfl) fun _ => List.mem_of_mem_filter
  | addComponent kind floor =>
    simp only [applyTo, Building.addComponent]
    split
    · exact .refl .refl _
    · rename_i f hf
      have hgrown := f.arises_appendComponents b.id kind 1 clock s
      exact .map_floors .refl fun _ _ _ =>
        ⟨f, List.mem_of_find?_eq_some hf, hgrown.mono (fun _ => id) fun _ _ => .grows⟩
  | removeComponent kind floor component =>
    refine Building.arises_mapFloor .refl floor fun f => ?_
    exact (f.arises_removeComponent b.id kind component).mono (fun _ => id) fun _ _ => .thins
  | addLift floor corridor =>
    refine Building.arises_mapFloor .refl floor fun f => ?_
    refine f.arises_mapCorridor b.id corridor .refl (fun _ => rfl) fun c => ?_
    exact .grows (k := 1) ⟨rfl, 1, le_rfl, by simp [Corridor.siblings, Owner.place]⟩
  | removeLift floor corridor lift =>
    refine Building.arises_mapFloor .refl floor fun f => ?_
    refine f.arises_mapCorridor b.id corridor .refl (fun _ => rfl) fun c => ?_
    exact .thins ⟨rfl, List.filter_sublist.map _⟩
  | renameFloor floor name =>
    exact Building.arises_mapFloor .refl floor fun f => .refl .refl _
  | renameComponent kind floor component name =>
    refine Building.arises_mapFloor .refl floor fun f => ?_
    cases kind with
    | restroom => exact f.arises_mapRestroom b.id component .refl fun _ => rfl
    | corridor => exact f.arises_mapCorridor b.id component .refl (fun _ => rfl) fun _ => .refl _
  | renumber => exact .renumber .refl (fun _ _ => rfl) fun _ => id
  | synced => exact .refl .refl _

/-! ## Collections -/

/-- Where ids are distinct, siblings are told apart by their owners. -/
theorem Collection.WellFormed.eq_of_owner_eq {c : Collection} (h : c.WellFormed) {x y : Siblings}
    (hx : x ∈ c.siblings) (hy : y ∈ c.siblings) (howner : y.owner = x.owner) : y = x := by
  obtain ⟨b, hb, hx⟩ := List.mem_flatMap.1 hx
  obtain ⟨b', hb', hy⟩ := List.mem_flatMap.1 hy
  obtain ⟨f, hf, hx⟩ := List.mem_flatMap.1 hx
  obtain ⟨f', hf', hy⟩ := List.mem_flatMap.1 hy
  have haddress : (b'.id, f'.id) = (b.id, f.id) := by
    rw [← Floor.address_eq hx, ← Floor.address_eq hy, howner]
  obtain ⟨hbuilding, hfloor⟩ := Prod.mk.inj haddress
  obtain rfl : b' = b := List.inj_on_of_nodup_map h.buildingIds hb' hb hbuilding
  obtain rfl : f' = f := List.inj_on_of_nodup_map (h.buildings b' hb').floorIds hf' hf hfloor
  exact ((h.buildings b' hb').floors f' hf').eq_of_owner_eq hx hy howner

end Floorplan
