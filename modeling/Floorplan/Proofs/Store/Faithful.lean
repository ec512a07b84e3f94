import Floorplan.Proofs.Building.Record
import Floorplan.Proofs.Store.Disk
import Floorplan.Store.Saved

set_option autoImplicit false

/-! # Faithful stores

Putting a text into a store can fail, and so can getting it back. A store is faithful if what it gives
under a key was at least put there: it is the text of the last attempt, or, if that failed, the one
before. The store in memory is faithful, and so is the one that is out of order.

What is loaded from a faithful store after saving a collection has the buildings of that collection by
their ids, or those that were loaded before, or none. -/

namespace Floorplan

/-- What is under a key is what was put there last, or before that if putting failed. -/
class FaithfulBlobStore (σ : Type) [BlobStore σ] : Prop where
  eq_or_get_of_get_set {store : σ} {key text found : String}
    (h : BlobStore.get (BlobStore.set store key text).1 key = .ok (some found)) :
    found = text ∨ BlobStore.get store key = .ok (some found)
  get_of_get_set_ne {store : σ} {key other text found : String} (hne : other ≠ key)
    (h : BlobStore.get (BlobStore.set store key text).1 other = .ok (some found)) :
    BlobStore.get store other = .ok (some found)

/-! ## In memory -/

namespace MemoryStore

theorem get_set (s : MemoryStore) (key text : String) :
    BlobStore.get (BlobStore.set s key text).1 key = .ok (some text) := by
  simp [BlobStore.get, BlobStore.set]

theorem lookup_without (s : MemoryStore) {key other : String} (hne : other ≠ key) :
    (s.without key).blobs.lookup other = s.blobs.lookup other := lookup_filter_ne s.blobs hne

theorem lookup_without_self (s : MemoryStore) (key : String) :
    (s.without key).blobs.lookup key = none := lookup_filter_self s.blobs key

theorem get_set_ne (s : MemoryStore) {key other : String} (text : String) (hne : other ≠ key) :
    BlobStore.get (BlobStore.set s key text).1 other = BlobStore.get s other := by
  have hother : (other == key) = false := by simpa using hne
  simp only [BlobStore.get, BlobStore.set, List.lookup_cons, hother, lookup_without s hne]

theorem get_remove (s : MemoryStore) (key : String) :
    BlobStore.get (BlobStore.remove s key).1 key = .ok none := by
  simp only [BlobStore.get, BlobStore.remove, lookup_without_self]

instance : FaithfulBlobStore MemoryStore where
  eq_or_get_of_get_set h := by
    rw [get_set] at h
    cases h
    exact Or.inl rfl
  get_of_get_set_ne hne h := by
    rw [get_set_ne _ _ hne] at h
    exact h

end MemoryStore

instance : FaithfulBlobStore BrokenStore where
  eq_or_get_of_get_set h := by cases h
  get_of_get_set_ne _ h := by cases h

/-! ## What is loaded -/

namespace Saved

variable {σ : Type} [BlobStore σ]

/-- Where there is nothing to be found the default is loaded. -/
theorem loadOr_of_get_ne {α : Type} [Saved α] {store : σ} {key : String} {default : α}
    (h : ∀ found, BlobStore.get store key ≠ .ok (some found)) :
    loadOr store key default = default := by
  unfold loadOr
  split
  · rename_i found hfound
    exact absurd hfound (h found)
  · rfl

/-- The ids of the buildings that are loaded from a store. -/
def buildingIds (store : σ) : List String :=
  (loadOr store buildingsKey Collection.empty).buildings.map (·.id)

theorem ids_of_ofText? {c c' : Collection} (h : ofText? (text c) = some c') :
    c'.buildings.map (·.id) = c.buildings.map (·.id) := by
  unfold ofText? at h
  split at h
  · cases h
  · have hparse : Json.parse? (text c) = some c.toJson := Json.parse?_compact c.wellFormed_toJson
    rw [hparse] at h
    exact Collection.ids_of_ofJson? h

theorem buildingIds_of_get {store : σ} {found : String}
    (h : BlobStore.get store buildingsKey = .ok (some found)) :
    buildingIds store = ((ofText? found).getD Collection.empty).buildings.map (·.id) := by
  simp only [buildingIds, loadOr, h]

/-- Nothing but a text under the key gives buildings. -/
theorem buildingIds_eq_nil {store : σ}
    (h : ∀ found, BlobStore.get store buildingsKey ≠ .ok (some found)) : buildingIds store = [] := by
  rw [buildingIds, loadOr_of_get_ne h]
  rfl

variable [FaithfulBlobStore σ]

/-- **After a collection has been saved** it is loaded, by the ids of its buildings, or else what was
    loaded before, or nothing. -/
theorem buildingIds_save (store : σ) (c : Collection) :
    buildingIds (save store buildingsKey c) = c.buildings.map (·.id) ∨
      buildingIds (save store buildingsKey c) = buildingIds store ∨
      buildingIds (save store buildingsKey c) = [] := by
  by_cases hsome : ∃ found, BlobStore.get (save store buildingsKey c) buildingsKey = .ok (some found)
  · obtain ⟨found, hfound⟩ := hsome
    rw [buildingIds_of_get hfound]
    rcases FaithfulBlobStore.eq_or_get_of_get_set hfound with rfl | hold
    · cases htext : (ofText? (text c) : Option Collection) with
      | none => exact Or.inr (Or.inr rfl)
      | some c' => exact Or.inl (ids_of_ofText? htext)
    · exact Or.inr (Or.inl (buildingIds_of_get hold).symm)
  · exact Or.inr (Or.inr (buildingIds_eq_nil fun found hfound => hsome ⟨found, hfound⟩))

/-- Saving something else leaves the buildings alone, or they cannot be loaded any more. -/
theorem buildingIds_save_ne {α : Type} [Saved α] (store : σ) {key : String}
    (hne : buildingsKey ≠ key) (a : α) :
    buildingIds (save store key a) = buildingIds store ∨ buildingIds (save store key a) = [] := by
  by_cases hsome : ∃ found, BlobStore.get (save store key a) buildingsKey = .ok (some found)
  · obtain ⟨found, hfound⟩ := hsome
    have hold := FaithfulBlobStore.get_of_get_set_ne hne hfound
    rw [buildingIds_of_get hfound, buildingIds_of_get hold]
    exact Or.inl rfl
  · exact Or.inr (buildingIds_eq_nil fun found hfound => hsome ⟨found, hfound⟩)

end Saved

end Floorplan
