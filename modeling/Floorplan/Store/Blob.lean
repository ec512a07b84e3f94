import Floorplan.Store.Disk

set_option autoImplicit false

/-! # Stores of texts by key

A store keeps a text under each key. Three stores share one interface: one in memory, one that keeps a
file for each key in a directory, and one whose every operation fails. An operation that fails may
still have changed the store. -/

namespace Floorplan

/-- Why an operation on a store fails: the key, where it was looked for, and the reason. -/
inductive StoreError where
  | read (key path reason : String)
  | write (key path reason : String)
  deriving DecidableEq, Repr

/-- The failure in words. -/
def StoreError.message : StoreError → String
  | read key path reason => "failed to read '" ++ key ++ "' from '" ++ path ++ "': " ++ reason
  | write key path reason => "failed to write '" ++ key ++ "' to '" ++ path ++ "': " ++ reason

/-- A store of texts by key. -/
class BlobStore (σ : Type) where
  /-- The text under a key, or none. -/
  get : σ → String → Except StoreError (Option String)
  /-- Puts a text under a key. -/
  set : σ → String → String → σ × Option StoreError
  /-- Removes a key, which may be missing. -/
  remove : σ → String → σ × Option StoreError

/-! ## In memory -/

/-- A store in memory: the texts by key, each key at most once. -/
structure MemoryStore where
  blobs : List (String × String) := []
  deriving DecidableEq, Repr

namespace MemoryStore

/-- Is there a text under the key? -/
def contains (s : MemoryStore) (key : String) : Bool := (s.blobs.lookup key).isSome

/-- The store without a key. -/
def without (s : MemoryStore) (key : String) : MemoryStore :=
  ⟨s.blobs.filter fun entry => entry.1 ≠ key⟩

instance : BlobStore MemoryStore where
  get s key := .ok (s.blobs.lookup key)
  set s key text := (⟨(key, text) :: (s.without key).blobs⟩, none)
  remove s key := (s.without key, none)

end MemoryStore

/-! ## In a directory -/

/-- A store in a directory of a disk. The directory is made when the first text is put into it. -/
structure FileStore where
  dir : String
  disk : Disk

namespace FileStore

/-- The file of a key. -/
def pathOf (s : FileStore) (key : String) : String := Path.join s.dir (key ++ ".json")

instance : BlobStore FileStore where
  get s key :=
    match s.disk.readText (s.pathOf key) with
    | .ok text => .ok (some text)
    | .error .notFound => .ok none
    | .error e => .error (.read key (s.pathOf key) e.message)
  set s key text :=
    let failed (e : DiskError) : Option StoreError := some (.write key (s.pathOf key) e.message)
    match s.disk.makeDirectories s.dir with
    | (disk, some e) => ({ s with disk }, failed e)
    | (disk, none) =>
      match disk.write (s.pathOf key) text with
      | .ok written => ({ s with disk := written }, none)
      | .error e => ({ s with disk }, failed e)
  remove s key :=
    match s.disk.remove (s.pathOf key) with
    | .ok disk => ({ s with disk }, none)
    | .error .notFound => (s, none)
    | .error e => (s, some (.write key (s.pathOf key) e.message))

end FileStore

/-! ## Out of order -/

/-- A store on which every operation fails. -/
structure BrokenStore where
  deriving DecidableEq, Repr

instance : BlobStore BrokenStore where
  get _ key := .error (.read key "broken" "disk gone")
  set s key _ := (s, some (.write key "broken" "disk gone"))
  remove s key := (s, some (.write key "broken" "disk gone"))

end Floorplan
