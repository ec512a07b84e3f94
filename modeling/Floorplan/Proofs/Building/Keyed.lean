import Floorplan.Building.Edit
import Mathlib.Data.List.Nodup

set_option autoImplicit false

/-! # Editing what has a key

An edit by id goes through a list and is made to everything that has the id. Where nothing has it, nothing
changes; where the ids are distinct, it is made in one place. Edits that keep the ids can be made one
after another in either order unless they are about the same thing, and of two edits of the same thing the
second one sees what the first one left. -/

namespace Floorplan

/-! ## Lists -/

section Keyed

variable {α : Type} {key : α → String} {id : String} {edit : α → α} {l l₁ l₂ : List α} {a : α}

/-- An edit of what has a key changes nothing if it leaves everything as it is that has the key. -/
theorem map_keyed_eq_self (h : ∀ a ∈ l, key a = id → edit a = a) :
    (l.map fun a => if key a = id then edit a else a) = l := by
  have hsame : ∀ a ∈ l, (if key a = id then edit a else a) = a := by
    intro a ha
    split
    · exact h a ha ‹_›
    · rfl
  rw [List.map_congr_left hsame, List.map_id']

/-- Taking away by key changes nothing if nothing has the key. -/
theorem filter_keyed_eq_self (h : ∀ a ∈ l, key a ≠ id) : (l.filter fun a => key a ≠ id) = l :=
  List.filter_eq_self.2 fun a ha => decide_eq_true (h a ha)

/-- Where keys are distinct, nothing before or behind has the key. -/
theorem key_ne_of_nodup (h : ((l₁ ++ a :: l₂).map key).Nodup) :
    (∀ x ∈ l₁, key x ≠ key a) ∧ ∀ x ∈ l₂, key x ≠ key a := by
  have ha := (List.perm_middle.map key).nodup h
  rw [List.map_cons, List.nodup_cons, List.map_append, List.mem_append, not_or] at ha
  obtain ⟨⟨hbefore, hbehind⟩, -⟩ := ha
  exact ⟨fun x hx heq => hbefore (heq ▸ List.mem_map_of_mem hx),
    fun x hx heq => hbehind (heq ▸ List.mem_map_of_mem hx)⟩

/-- Where keys are distinct, an edit by key is made in one place. -/
theorem map_keyed_append_cons (h : ((l₁ ++ a :: l₂).map key).Nodup) (edit : α → α) :
    ((l₁ ++ a :: l₂).map fun x => if key x = key a then edit x else x) = l₁ ++ edit a :: l₂ := by
  obtain ⟨hbefore, hbehind⟩ := key_ne_of_nodup h
  rw [List.map_append, List.map_cons, if_pos rfl,
    map_keyed_eq_self fun x hx heq => absurd heq (hbefore x hx),
    map_keyed_eq_self fun x hx heq => absurd heq (hbehind x hx)]

/-- Where keys are distinct, taking away by key takes away one thing. -/
theorem filter_keyed_append_cons (h : ((l₁ ++ a :: l₂).map key).Nodup) :
    ((l₁ ++ a :: l₂).filter fun x => key x ≠ key a) = l₁ ++ l₂ := by
  obtain ⟨hbefore, hbehind⟩ := key_ne_of_nodup h
  rw [List.filter_append, List.filter_cons_of_neg (by simp),
    filter_keyed_eq_self hbefore, filter_keyed_eq_self hbehind]

/-- Where keys are distinct, looking up by key finds what has it. -/
theorem find?_keyed_append_cons (h : ((l₁ ++ a :: l₂).map key).Nodup) :
    ((l₁ ++ a :: l₂).find? fun x => key x = key a) = some a := by
  have hbefore : (l₁.find? fun x => key x = key a) = none :=
    List.find?_eq_none.2 fun x hx => by simpa using (key_ne_of_nodup h).1 x hx
  rw [List.find?_append, hbefore, Option.none_or, List.find?_cons_of_pos (by simp)]

theorem map_keyed_eq_modify {i : Nat} (h : (l.map key).Nodup) (hid : (l.map key)[i]? = some id)
    (edit : α → α) : (l.map fun x => if key x = id then edit x else x) = l.modify i edit := by
  rw [List.getElem?_map, Option.map_eq_some_iff] at hid
  obtain ⟨a, ha, rfl⟩ := hid
  obtain ⟨hi, rfl⟩ := List.getElem?_eq_some_iff.1 ha
  have hsplit : l = l.take i ++ l[i] :: l.drop (i + 1) := by simp
  rw [List.modify_eq_take_cons_drop hi, ← map_keyed_append_cons (hsplit ▸ h), ← hsplit]

/-- Only what stands at the place decides what an edit there does. -/
theorem modify_congr_of_getElem? {i : Nat} {edit' : α → α} (ha : l[i]? = some a)
    (h : edit a = edit' a) : l.modify i edit = l.modify i edit' := by
  obtain ⟨hi, rfl⟩ := List.getElem?_eq_some_iff.1 ha
  rw [List.modify_eq_take_cons_drop hi, List.modify_eq_take_cons_drop hi, h]

/-- What has the key keeps it, and so it is edited again. -/
theorem map_keyed_map_keyed {edit' : α → α} (hkept : ∀ a, key a = id → key (edit a) = id) :
    ((l.map fun a => if key a = id then edit a else a).map fun a =>
      if key a = id then edit' a else a) = l.map fun a => if key a = id then edit' (edit a) else a := by
  rw [List.map_map]
  refine List.map_congr_left fun a _ => ?_
  rw [Function.comp_apply]
  by_cases ha : key a = id
  · rw [if_pos ha, if_pos (hkept a ha), if_pos ha]
  · rw [if_neg ha, if_neg ha, if_neg ha]

/-- Edits that keep the key commute if they do where they meet. -/
theorem map_keyed_comm {id' : String} {edit' : α → α} (hkept : ∀ a, key (edit a) = key a)
    (hkept' : ∀ a, key (edit' a) = key a) (h : id = id' → ∀ a, edit (edit' a) = edit' (edit a)) :
    ((l.map fun a => if key a = id' then edit' a else a).map fun a =>
        if key a = id then edit a else a) =
      (l.map fun a => if key a = id then edit a else a).map fun a =>
        if key a = id' then edit' a else a := by
  rw [List.map_map, List.map_map]
  refine List.map_congr_left fun a _ => ?_
  have hsame : key (if key a = id then edit a else a) = key a := by
    split
    · exact hkept a
    · rfl
  have hsame' : key (if key a = id' then edit' a else a) = key a := by
    split
    · exact hkept' a
    · rfl
  rw [Function.comp_apply, Function.comp_apply, hsame, hsame']
  by_cases ha : key a = id <;> by_cases ha' : key a = id'
  · simpa only [if_pos ha, if_pos ha'] using h (ha.symm.trans ha') a
  · simp only [if_pos ha, if_neg ha']
  · simp only [if_neg ha, if_pos ha']
  · simp only [if_neg ha, if_neg ha']

end Keyed

/-! ## Floors and their components -/

namespace Floor

variable {f : Floor} {id id' : String} {rs ss : List Restroom} {r : Restroom} {cs ds : List Corridor}
  {c : Corridor}

theorem mapRestroom_eq_self {edit : Restroom → Restroom}
    (h : ∀ r ∈ f.restrooms, r.id = id → edit r = r) : f.mapRestroom id edit = f := by
  rw [mapRestroom, map_keyed_eq_self h]

theorem mapCorridor_eq_self {edit : Corridor → Corridor}
    (h : ∀ c ∈ f.corridors, c.id = id → edit c = c) : f.mapCorridor id edit = f := by
  rw [mapCorridor, map_keyed_eq_self h]

theorem mapRestroom_append_cons (h : (f.restrooms.map (·.id)).Nodup) (hr : f.restrooms = rs ++ r :: ss)
    (edit : Restroom → Restroom) :
    f.mapRestroom r.id edit = { f with restrooms := rs ++ edit r :: ss } := by
  rw [hr] at h
  rw [mapRestroom, hr, map_keyed_append_cons h]

theorem mapCorridor_append_cons (h : (f.corridors.map (·.id)).Nodup) (hc : f.corridors = cs ++ c :: ds)
    (edit : Corridor → Corridor) :
    f.mapCorridor c.id edit = { f with corridors := cs ++ edit c :: ds } := by
  rw [hc] at h
  rw [mapCorridor, hc, map_keyed_append_cons h]

theorem removeRestroom_append_cons (h : (f.restrooms.map (·.id)).Nodup)
    (hr : f.restrooms = rs ++ r :: ss) :
    f.removeComponent .restroom r.id = { f with restrooms := rs ++ ss } := by
  rw [hr] at h
  rw [removeComponent, hr, filter_keyed_append_cons h]

theorem removeCorridor_append_cons (h : (f.corridors.map (·.id)).Nodup)
    (hc : f.corridors = cs ++ c :: ds) :
    f.removeComponent .corridor c.id = { f with corridors := cs ++ ds } := by
  rw [hc] at h
  rw [removeComponent, hc, filter_keyed_append_cons h]

theorem mapRestroom_eq_modify {i : Nat} (h : (f.restrooms.map (·.id)).Nodup)
    (hid : (f.restrooms.map (·.id))[i]? = some id) (edit : Restroom → Restroom) :
    f.mapRestroom id edit = { f with restrooms := f.restrooms.modify i edit } := by
  rw [mapRestroom, map_keyed_eq_modify h hid]

theorem mapCorridor_eq_modify {i : Nat} (h : (f.corridors.map (·.id)).Nodup)
    (hid : (f.corridors.map (·.id))[i]? = some id) (edit : Corridor → Corridor) :
    f.mapCorridor id edit = { f with corridors := f.corridors.modify i edit } := by
  rw [mapCorridor, map_keyed_eq_modify h hid]

theorem mapRestroom_mapRestroom {edit edit' : Restroom → Restroom} (hkept : ∀ r, (edit r).id = r.id) :
    (f.mapRestroom id edit).mapRestroom id edit' = f.mapRestroom id fun r => edit' (edit r) := by
  rw [mapRestroom, mapRestroom, map_keyed_map_keyed fun a ha => (hkept a).trans ha, mapRestroom]

theorem mapCorridor_mapCorridor {edit edit' : Corridor → Corridor} (hkept : ∀ c, (edit c).id = c.id) :
    (f.mapCorridor id edit).mapCorridor id edit' = f.mapCorridor id fun c => edit' (edit c) := by
  rw [mapCorridor, mapCorridor, map_keyed_map_keyed fun a ha => (hkept a).trans ha, mapCorridor]

theorem mapRestroom_comm {edit edit' : Restroom → Restroom} (hkept : ∀ r, (edit r).id = r.id)
    (hkept' : ∀ r, (edit' r).id = r.id) (h : id = id' → ∀ r, edit (edit' r) = edit' (edit r)) :
    (f.mapRestroom id' edit').mapRestroom id edit = (f.mapRestroom id edit).mapRestroom id' edit' := by
  simp only [mapRestroom]
  rw [map_keyed_comm hkept hkept' h]

theorem mapCorridor_comm {edit edit' : Corridor → Corridor} (hkept : ∀ c, (edit c).id = c.id)
    (hkept' : ∀ c, (edit' c).id = c.id) (h : id = id' → ∀ c, edit (edit' c) = edit' (edit c)) :
    (f.mapCorridor id' edit').mapCorridor id edit = (f.mapCorridor id edit).mapCorridor id' edit' := by
  simp only [mapCorridor]
  rw [map_keyed_comm hkept hkept' h]

end Floor

namespace Building

variable {b : Building} {id id' : String} {edit edit' : Floor → Floor} {fs gs : List Floor} {f : Floor}

theorem mapFloor_eq_self (h : ∀ f ∈ b.floors, f.id = id → edit f = f) : b.mapFloor id edit = b := by
  rw [mapFloor, map_keyed_eq_self h]

theorem mapFloor_append_cons (h : (b.floors.map (·.id)).Nodup) (hf : b.floors = fs ++ f :: gs)
    (edit : Floor → Floor) : b.mapFloor f.id edit = { b with floors := fs ++ edit f :: gs } := by
  rw [hf] at h
  rw [mapFloor, hf, map_keyed_append_cons h]

theorem mapFloor_eq_modify {i : Nat} (h : (b.floors.map (·.id)).Nodup)
    (hid : (b.floors.map (·.id))[i]? = some id) (edit : Floor → Floor) :
    b.mapFloor id edit = { b with floors := b.floors.modify i edit } := by
  rw [mapFloor, map_keyed_eq_modify h hid]

theorem mapFloor_mapFloor (hkept : ∀ f, (edit f).id = f.id) :
    (b.mapFloor id edit).mapFloor id edit' = b.mapFloor id fun f => edit' (edit f) := by
  rw [mapFloor, mapFloor, map_keyed_map_keyed fun a ha => (hkept a).trans ha, mapFloor]

theorem mapFloor_comm (hkept : ∀ f, (edit f).id = f.id) (hkept' : ∀ f, (edit' f).id = f.id)
    (h : id = id' → ∀ f, edit (edit' f) = edit' (edit f)) :
    (b.mapFloor id' edit').mapFloor id edit = (b.mapFloor id edit).mapFloor id' edit' := by
  simp only [mapFloor]
  rw [map_keyed_comm hkept hkept' h]

end Building

end Floorplan
