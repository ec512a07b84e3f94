import Floorplan.Proofs.Store.Faithful
import Floorplan.Proofs.Text.Split

set_option autoImplicit false

/-! # Stores in a directory and in memory

A store in a directory that does not exist yet holds the same texts as an empty one in memory, whatever
is put under the keys of a session or removed from there (`FileStore.Agrees`). At first there is no
directory, and nothing to remove. With the first text the directory is made, and from then on the disk is
the one with the directory but for the two files. -/

namespace Floorplan

/-! ## Paths of files in a directory -/

namespace Path

variable {dir name : String}

/-- The path of a name in a directory ends with the name. -/
theorem toList_join (dir : String) (hslash : '/' ∉ name.toList) :
    (join dir name).toList = name.toList ∧ dir.toList = [] ∨
      ∃ front, (join dir name).toList = front ++ '/' :: name.toList ∧
        (dir.toList = front ∨ dir.toList = front ++ ['/']) := by
  have hrelative : isAbsolute name = false := by
    unfold isAbsolute
    cases h : name.toList with
    | nil => rfl
    | cons c cs =>
      rw [h, List.mem_cons, not_or] at hslash
      simpa using Ne.symm hslash.1
  unfold join
  rw [hrelative, if_neg Bool.false_ne_true]
  by_cases hempty : dir.toList = []
  · have hdir : dir = "" := String.toList_eq_nil_iff.1 hempty
    subst hdir
    exact Or.inl ⟨by simp, rfl⟩
  · have hnonempty : dir.isEmpty = false := by
      rw [Bool.eq_false_iff]
      intro h
      exact hempty (String.toList_eq_nil_iff.2 (String.isEmpty_iff.1 h))
    rw [hnonempty, Bool.false_or]
    cases hends : endsWithSlash dir with
    | true =>
      have hlast : dir.toList.getLast? = some '/' := by simpa [endsWithSlash] using hends
      obtain ⟨front, hfront⟩ := List.getLast?_eq_some_iff.1 hlast
      exact Or.inr ⟨front, by simp [hfront], Or.inr hfront⟩
    | false => exact Or.inr ⟨dir.toList, by simp, Or.inl rfl⟩

theorem pieces_join (dir : String) (hslash : '/' ∉ name.toList) (hname : name.toList ≠ []) :
    pieces (join dir name) = pieces dir ++ [name.toList] := by
  have hlast : ([name.toList].filter fun p => !p.isEmpty) = [name.toList] := by
    simp [hname]
  unfold pieces
  rcases toList_join dir hslash with ⟨hjoin, hdir⟩ | ⟨front, hjoin, hdir | hdir⟩
  · rw [hjoin, hdir, Text.splitAt_of_notMem hslash, hlast]
    rfl
  · rw [hjoin, hdir, Text.splitAt_append, Text.splitAt_of_notMem hslash, List.filter_append, hlast]
  · rw [hjoin, hdir, Text.splitAt_append, Text.splitAt_append, Text.splitAt_of_notMem hslash,
      List.filter_append, List.filter_append, hlast]
    simp [Text.splitAt]

theorem endsWithSlash_join (dir : String) (hslash : '/' ∉ name.toList) (hname : name.toList ≠ []) :
    endsWithSlash (join dir name) = false := by
  have hlast : (join dir name).toList.getLast? = name.toList.getLast? := by
    rcases toList_join dir hslash with ⟨hjoin, -⟩ | ⟨front, hjoin, -⟩
    · rw [hjoin]
    · rw [hjoin, List.getLast?_append_of_ne_nil _ (List.cons_ne_nil _ _),
        List.getLast?_cons_of_ne_nil hname]
  unfold endsWithSlash
  rw [hlast, beq_eq_false_iff_ne]
  intro h
  exact hslash (List.mem_of_getLast? h)

end Path

/-! ## Files of a session -/

/-- The keys under which a session saves. -/
def sessionKeys : List String := [buildingsKey, messagesKey]

/-- The file of a key in a directory. -/
def filePath (dir key : String) : String := Path.join dir (key ++ ".json")

theorem fileName_of_mem {key : String} (h : key ∈ sessionKeys) :
    '/' ∉ (key ++ ".json").toList ∧ (key ++ ".json").toList ≠ [] := by
  rcases List.mem_pair.1 h with rfl | rfl <;> decide

theorem endsWithSlash_filePath (dir : String) {key : String} (h : key ∈ sessionKeys) :
    Path.endsWithSlash (filePath dir key) = false :=
  Path.endsWithSlash_join dir (fileName_of_mem h).1 (fileName_of_mem h).2

namespace FileStore

/-- The directory of a store can be made, and then there is nothing under the keys of a session in it.
    So it is where the directory does not exist yet, and nothing goes wrong in making it. -/
def Fresh (f : FileStore) : Prop :=
  ∃ made, f.disk.makeDirectories f.dir = (made, none) ∧
    ∀ key ∈ sessionKeys, ∃ p, made.resolve (filePath f.dir key) = .ok (.free p)

/-- Does the path lead to a free place? -/
def leadsToFree (d : Disk) (path : String) : Bool :=
  match d.resolve path with
  | .ok (.free _) => true
  | _ => false

theorem leadsToFree_iff {d : Disk} {path : String} :
    leadsToFree d path ↔ ∃ p, d.resolve path = .ok (.free p) := by
  unfold leadsToFree
  constructor
  · intro h
    split at h
    · exact ⟨_, ‹_›⟩
    · cases h
  · rintro ⟨p, hp⟩
    rw [hp]

theorem fresh_iff {f : FileStore} :
    f.Fresh ↔ (f.disk.makeDirectories f.dir).2 = none ∧
      ∀ key ∈ sessionKeys, leadsToFree (f.disk.makeDirectories f.dir).1 (filePath f.dir key) := by
  simp only [leadsToFree_iff]
  constructor
  · rintro ⟨made, hmade, hfree⟩
    rw [hmade]
    exact ⟨rfl, hfree⟩
  · rintro ⟨hmade, hfree⟩
    exact ⟨_, Prod.ext rfl hmade, hfree⟩

instance (f : FileStore) : Decidable f.Fresh := decidable_of_iff _ fresh_iff.symm

/-- A disk with a directory, in which the files of a session have free places. -/
structure Prepared (dir : String) (made : Disk) (place : String → Place) : Prop where
  again : ∀ e, made.Extends e → e.makeDirectories dir = (e, none)
  free : ∀ key ∈ sessionKeys, made.resolve (filePath dir key) = .ok (.free (place key))

/-- The store holds the texts of one in memory in files, and nothing else on the disk has changed. -/
structure Holds (dir : String) (made : Disk) (place : String → Place) (m : MemoryStore)
    (f : FileStore) : Prop where
  dir_eq : f.dir = dir
  here_eq : f.disk.here = made.here
  others : ∀ q, (∀ key ∈ sessionKeys, q ≠ place key) → f.disk.node? q = made.node? q
  files : ∀ key ∈ sessionKeys,
    f.disk.node? (place key) = (m.blobs.lookup key).map fun text => .file text.toUTF8

variable {dir key text : String} {made : Disk} {place : String → Place} {m : MemoryStore}
  {f : FileStore}

theorem Prepared.node?_eq_none (h : Prepared dir made place) (hkey : key ∈ sessionKeys) :
    made.node? (place key) = none := (Disk.free_resolve (h.free key hkey)).1

/-- The files of different keys have different names, so they are at different places. -/
theorem Prepared.place_ne (h : Prepared dir made place) {other : String} (hkey : key ∈ sessionKeys)
    (hother : other ∈ sessionKeys) (hne : key ≠ other) : place key ≠ place other := by
  have hlast : ∀ k ∈ sessionKeys, (place k).getLast? = some (k ++ ".json").toList := by
    intro k hk
    obtain ⟨-, parent, name, hname, hplace⟩ := Disk.free_resolve (h.free k hk)
    rw [filePath, Path.pieces_join dir (fileName_of_mem hk).1 (fileName_of_mem hk).2,
      List.getLast?_concat] at hname
    rw [hplace, List.getLast?_concat, hname]
  intro heq
  have hnames : (key ++ ".json").toList = (other ++ ".json").toList := by
    rw [← Option.some.injEq, ← hlast key hkey, ← hlast other hother, heq]
  exact hne (String.toList_inj.1 (by simpa using hnames))

theorem Holds.extends (h : Holds dir made place m f) (hprepared : Prepared dir made place) :
    made.Extends f.disk := by
  refine ⟨h.here_eq, fun q node hq => ?_⟩
  rw [h.others q fun key hkey => ?_]
  · exact hq
  · rintro rfl
    rw [hprepared.node?_eq_none hkey] at hq
    cases hq

/-- When the directory has been made there is nothing in it. -/
theorem Prepared.holds (h : Prepared dir made place)
    (hnone : ∀ key ∈ sessionKeys, m.blobs.lookup key = none) : Holds dir made place m ⟨dir, made⟩ :=
  ⟨rfl, rfl, fun _ _ => rfl, fun key hkey => by rw [hnone key hkey, h.node?_eq_none hkey]; rfl⟩

namespace Holds

theorem resolve_eq (h : Holds dir made place m f) (hprepared : Prepared dir made place)
    (hkey : key ∈ sessionKeys) :
    f.disk.resolve (f.pathOf key) = .ok (f.disk.targetAt (place key)) := by
  have hfree := hprepared.free key hkey
  rw [← h.dir_eq] at hfree
  exact Disk.resolve_of_free (h.extends hprepared) hfree

theorem get_eq (h : Holds dir made place m f) (hprepared : Prepared dir made place)
    (hkey : key ∈ sessionKeys) : BlobStore.get f key = BlobStore.get m key := by
  have hresolve := h.resolve_eq hprepared hkey
  have hslash : Path.endsWithSlash (f.pathOf key) = false := endsWithSlash_filePath f.dir hkey
  have hfile := h.files key hkey
  simp only [BlobStore.get]
  cases htext : m.blobs.lookup key with
  | none =>
    rw [htext] at hfile
    rw [Disk.readText_of_none hresolve hfile]
  | some text =>
    rw [htext] at hfile
    rw [Disk.readText_of_file hresolve hslash hfile]

/-- Another text in one of the files, or none. -/
theorem change (h : Holds dir made place m f) (hprepared : Prepared dir made place)
    (hkey : key ∈ sessionKeys) {m' : MemoryStore} {disk : Disk} (hhere : disk.here = f.disk.here)
    (hsame : ∀ q ≠ place key, disk.node? q = f.disk.node? q)
    (hnode : disk.node? (place key) = (m'.blobs.lookup key).map fun text => .file text.toUTF8)
    (hothers : ∀ other ≠ key, m'.blobs.lookup other = m.blobs.lookup other) :
    Holds dir made place m' { f with disk } := by
  refine ⟨h.dir_eq, hhere.trans h.here_eq, fun q hq => ?_, fun other hother => ?_⟩
  · exact (hsame q (hq key hkey)).trans (h.others q hq)
  · by_cases hne : other = key
    · subst hne
      exact hnode
    · rw [hothers other hne]
      exact (hsame _ (hprepared.place_ne hother hkey hne)).trans (h.files other hother)

theorem set (h : Holds dir made place m f) (hprepared : Prepared dir made place)
    (hkey : key ∈ sessionKeys) (text : String) :
    Holds dir made place (BlobStore.set m key text).1 (BlobStore.set f key text).1 := by
  have hslash : Path.endsWithSlash (f.pathOf key) = false := endsWithSlash_filePath f.dir hkey
  have hagain : f.disk.makeDirectories f.dir = (f.disk, none) := by
    rw [h.dir_eq]
    exact hprepared.again f.disk (h.extends hprepared)
  have hnode : f.disk.node? (place key) = none ∨ ∃ bytes, f.disk.node? (place key) = some (.file bytes) := by
    rw [h.files key hkey]
    cases m.blobs.lookup key with
    | none => exact Or.inl rfl
    | some text => exact Or.inr ⟨_, rfl⟩
  have hwrite := Disk.write_eq (h.resolve_eq hprepared hkey) hslash text hnode
  have hset : (BlobStore.set f key text).1 = { f with disk :=
      (f.disk.put (place key) (.file ByteArray.empty)).put (place key) (.file text.toUTF8) } := by
    simp only [BlobStore.set, hagain, hwrite]
  rw [hset]
  refine h.change hprepared hkey rfl (fun q hq => ?_) ?_ fun other hother => ?_
  · rw [Disk.node?_put_ne _ _ hq, Disk.node?_put_ne _ _ hq]
  · simp [Disk.node?_put, BlobStore.set]
  · have hbeq : (other == key) = false := by simpa using hother
    simp only [BlobStore.set, List.lookup_cons, hbeq, MemoryStore.lookup_without m hother]

theorem remove (h : Holds dir made place m f) (hprepared : Prepared dir made place)
    (hkey : key ∈ sessionKeys) :
    Holds dir made place (BlobStore.remove m key).1 (BlobStore.remove f key).1 := by
  have hresolve := h.resolve_eq hprepared hkey
  have hslash : Path.endsWithSlash (f.pathOf key) = false := endsWithSlash_filePath f.dir hkey
  have hfile := h.files key hkey
  have hgone : (BlobStore.remove m key).1.blobs.lookup key = none :=
    MemoryStore.lookup_without_self m key
  have hothers : ∀ other ≠ key, (m.without key).blobs.lookup other = m.blobs.lookup other :=
    fun _ => MemoryStore.lookup_without m
  cases htext : m.blobs.lookup key with
  | none =>
    rw [htext] at hfile
    have hremove : (BlobStore.remove f key).1 = { f with disk := f.disk } := by
      simp only [BlobStore.remove, Disk.remove_of_none hresolve hfile]
    rw [hremove]
    exact h.change hprepared hkey rfl (fun _ _ => rfl) (by rw [hfile, hgone]) hothers
  | some text =>
    rw [htext] at hfile
    have hremove : (BlobStore.remove f key).1 = { f with disk := f.disk.drop (place key) } := by
      simp only [BlobStore.remove, Disk.remove_of_file hresolve hslash hfile]
    rw [hremove]
    refine h.change hprepared hkey rfl (fun q hq => Disk.node?_drop_ne f.disk hq) ?_ hothers
    rw [Disk.node?_drop, hgone]
    rfl

end Holds

/-! ## From the first text on, and before -/

/-- The store agrees with one in memory: nothing has been put into either yet, or they hold the same. -/
inductive Agrees (start : FileStore) : MemoryStore → FileStore → Prop
  | unused {m : MemoryStore} (hnone : ∀ key ∈ sessionKeys, m.blobs.lookup key = none) :
      Agrees start m start
  | used {made : Disk} {place : String → Place} {m : MemoryStore} {f : FileStore}
      (hprepared : Prepared start.dir made place) (h : Holds start.dir made place m f) :
      Agrees start m f

/-- What is to be found in a directory that is made later cannot be found before. -/
theorem Fresh.missing {start : FileStore} (h : start.Fresh) (hkey : key ∈ sessionKeys) :
    start.disk.readText (start.pathOf key) = .error .notFound ∧
      start.disk.remove (start.pathOf key) = .error .notFound := by
  obtain ⟨made, hmade, hfree⟩ := h
  obtain ⟨p, hp⟩ := hfree key hkey
  have hleads := Disk.leads_resolve (Disk.makeLeading_ok hmade).1 (start.pathOf key)
  rw [show made.resolve (start.pathOf key) = .ok (.free p) from hp] at hleads
  unfold Disk.readText Disk.read Disk.remove
  cases hresolve : start.disk.resolve (start.pathOf key) with
  | ok target =>
    cases target with
    | found q node =>
      rw [hresolve] at hleads
      cases hleads
    | free q => exact ⟨rfl, rfl⟩
  | error reason =>
    rw [hresolve] at hleads
    cases reason with
    | notFound => exact ⟨rfl, rfl⟩
    | _ => cases hleads

theorem Fresh.prepared {start : FileStore} (h : start.Fresh) :
    ∃ made place, start.disk.makeDirectories start.dir = (made, none) ∧
      Prepared start.dir made place := by
  obtain ⟨made, hmade, hfree⟩ := h
  have hplace : ∀ key, ∃ p, key ∈ sessionKeys →
      made.resolve (filePath start.dir key) = .ok (.free p) := by
    intro key
    by_cases hkey : key ∈ sessionKeys
    · obtain ⟨p, hp⟩ := hfree key hkey
      exact ⟨p, fun _ => hp⟩
    · exact ⟨[], fun h => absurd h hkey⟩
  obtain ⟨place, hplace⟩ := Classical.axiomOfChoice hplace
  exact ⟨made, place, hmade, fun _ => Disk.makeDirectories_again hmade, hplace⟩

namespace Agrees

variable {start : FileStore}

/-- **Stores that agree hold the same texts** under the keys of a session. -/
theorem get_eq (h : Agrees start m f) (hfresh : start.Fresh) (hkey : key ∈ sessionKeys) :
    ∃ found, BlobStore.get m key = .ok found ∧ BlobStore.get f key = .ok found := by
  cases h with
  | unused hnone =>
    refine ⟨none, by simp only [BlobStore.get, hnone key hkey], ?_⟩
    simp only [BlobStore.get, (hfresh.missing hkey).1]
  | used hprepared h => exact ⟨_, rfl, h.get_eq hprepared hkey⟩

theorem set (h : Agrees start m f) (hfresh : start.Fresh) (hkey : key ∈ sessionKeys)
    (text : String) : Agrees start (BlobStore.set m key text).1 (BlobStore.set f key text).1 := by
  cases h with
  | unused hnone =>
    obtain ⟨made, place, hmade, hprepared⟩ := hfresh.prepared
    -- The first text is put as if the directory had been there, for making it is what comes first.
    have hagain := hprepared.again made (.refl made)
    have hsame : BlobStore.set f key text = BlobStore.set (⟨f.dir, made⟩ : FileStore) key text := by
      simp only [BlobStore.set, hmade, hagain]
      rfl
    rw [hsame]
    exact .used hprepared ((hprepared.holds hnone).set hprepared hkey text)
  | used hprepared h => exact .used hprepared (h.set hprepared hkey text)

theorem remove (h : Agrees start m f) (hfresh : start.Fresh) (hkey : key ∈ sessionKeys) :
    Agrees start (BlobStore.remove m key).1 (BlobStore.remove f key).1 := by
  cases h with
  | unused hnone =>
    have hsame : (BlobStore.remove f key).1 = f := by
      simp only [BlobStore.remove, (hfresh.missing hkey).2]
    rw [hsame]
    refine .unused fun other hother => ?_
    by_cases hne : other = key
    · subst hne
      exact MemoryStore.lookup_without_self m other
    · exact (MemoryStore.lookup_without m hne).trans (hnone other hother)
  | used hprepared h => exact .used hprepared (h.remove hprepared hkey)

end Agrees

end FileStore

end Floorplan
