import Floorplan.Store.Disk
import Mathlib.Data.List.Basic

set_option autoImplicit false

/-! # Files as they are written

A disk extends another if it holds at least what the other holds. Where a path leads on the smaller disk
it leads on the larger one, up to what has been put at a free place since (`Disk.leads_resolve`). From
this follows what writing, reading and removing a file do at a path that led to a free place once, and
that a directory that has been made need not be made again. -/

namespace Floorplan

/-! ## Entries under keys -/

section Entries

variable {α β : Type} [BEq α] [LawfulBEq α] [DecidableEq α]

theorem lookup_filter_ne (entries : List (α × β)) {key other : α} (hne : other ≠ key) :
    (entries.filter fun e => e.1 ≠ key).lookup other = entries.lookup other := by
  induction entries with
  | nil => rfl
  | cons e entries ih =>
    by_cases hkey : e.1 = key
    · have hother : (other == e.1) = false := by simpa [hkey] using hne
      rw [List.filter_cons_of_neg (by simpa using hkey), ih, List.lookup_cons, hother]
    · rw [List.filter_cons_of_pos (by simpa using hkey), List.lookup_cons, List.lookup_cons, ih]

theorem lookup_filter_self (entries : List (α × β)) (key : α) :
    (entries.filter fun e => e.1 ≠ key).lookup key = none := by
  rw [List.lookup_eq_none_iff]
  intro e he
  have hne : e.1 ≠ key := by simpa using (List.mem_filter.1 he).2
  simpa using hne.symm

end Entries

namespace Disk

variable {d e made : Disk} {place p q : Place} {node : Node} {names : List (List Char)}
  {path dir text : String}

theorem node?_put (d : Disk) (p : Place) (node : Node) : (d.put p node).node? p = some node := by
  simp only [node?, put, List.lookup_cons_self]

theorem node?_put_ne (d : Disk) (node : Node) (hne : q ≠ p) : (d.put p node).node? q = d.node? q := by
  have hother : (q == p) = false := by simpa using hne
  simp only [node?, put, List.lookup_cons, hother, lookup_filter_ne d.nodes hne]

theorem node?_drop (d : Disk) (p : Place) : (d.drop p).node? p = none :=
  lookup_filter_self d.nodes p

theorem node?_drop_ne (d : Disk) (hne : q ≠ p) : (d.drop p).node? q = d.node? q :=
  lookup_filter_ne d.nodes hne

/-! ## Disks that hold more -/

/-- The second disk holds at least what the first one holds. -/
structure Extends (d e : Disk) : Prop where
  here_eq : e.here = d.here
  node?_eq : ∀ place node, d.node? place = some node → e.node? place = some node

theorem Extends.refl (d : Disk) : d.Extends d := ⟨rfl, fun _ _ h => h⟩

theorem Extends.trans {f : Disk} (h : d.Extends e) (h' : e.Extends f) : d.Extends f :=
  ⟨h'.here_eq.trans h.here_eq, fun place node hnode => h'.node?_eq place node (h.node?_eq place node hnode)⟩

theorem extends_put (h : d.node? p = none) (node : Node) : d.Extends (d.put p node) := by
  refine ⟨rfl, fun q other hq => ?_⟩
  have hne : q ≠ p := by
    rintro rfl
    rw [h] at hq
    cases hq
  rw [node?_put_ne d node hne]
  exact hq

/-- Where a path leads that comes to a place: to what is there, or to the place while it is free. -/
def targetAt (d : Disk) (p : Place) : Target :=
  match d.node? p with
  | some node => .found p node
  | none => .free p

theorem targetAt_of_none (h : d.node? p = none) : d.targetAt p = .free p := by
  simp only [targetAt, h]

theorem targetAt_of_some (h : d.node? p = some node) : d.targetAt p = .found p node := by
  simp only [targetAt, h]

/-- Where a path leads on a disk, by where it leads on one that the disk extends. Only if there was
    nothing to be found may anything be found now. -/
def Leads (e : Disk) : Except DiskError Target → Except DiskError Target → Prop
  | .ok (.found p node), now => now = .ok (.found p node)
  | .ok (.free p), now => now = .ok (e.targetAt p)
  | .error .notFound, _ => True
  | .error reason, now => now = .error reason

theorem leads_walk (h : d.Extends e) (place : Place) (node : Node) (names : List (List Char)) :
    Leads e (d.walk place node names) (e.walk place node names) := by
  induction names generalizing place node with
  | nil => rfl
  | cons name rest ih =>
    cases node with
    | directory =>
      simp only [walk]
      split
      · exact ih place .directory
      · split
        · exact ih place.dropLast .directory
        · split
          · rfl
          · cases hnode : d.node? (place ++ [name]) with
            | some next =>
              simp only [h.node?_eq _ _ hnode]
              exact ih (place ++ [name]) next
            | none =>
              cases rest with
              -- The last name is free, so what is there now was put there since.
              | nil =>
                simp only [List.isEmpty_nil, if_true, Leads, targetAt]
                cases e.node? (place ++ [name]) <;> rfl
              | cons => trivial
    | file | sink | full => rfl

/-- **Where a path leads on a disk that holds more.** -/
theorem leads_resolve (h : d.Extends e) (path : String) :
    Leads e (d.resolve path) (e.resolve path) := by
  unfold resolve
  split
  · rfl
  · split
    · trivial
    · split
      · rfl
      · rw [h.here_eq]
        exact leads_walk h _ _ _

/-- A free place has the last name of the path. -/
theorem free_walk (h : d.walk place node names = .ok (.free p)) :
    d.node? p = none ∧ ∃ parent name, names.getLast? = some name ∧ p = parent ++ [name] := by
  induction names generalizing place node with
  | nil => cases h
  | cons name rest ih =>
    have hlater : rest ≠ [] → (name :: rest).getLast? = rest.getLast? := List.getLast?_cons_of_ne_nil
    have hnext : ∀ {place node}, d.walk place node rest = .ok (.free p) →
        d.node? p = none ∧ ∃ parent last, (name :: rest).getLast? = some last ∧
          p = parent ++ [last] := by
      intro place node hrest
      have hne : rest ≠ [] := by
        rintro rfl
        cases hrest
      rw [hlater hne]
      exact ih hrest
    cases node with
    | directory =>
      simp only [walk] at h
      split at h
      · exact hnext h
      · split at h
        · exact hnext h
        · split at h
          · cases h
          · cases hnode : d.node? (place ++ [name]) with
            | some next =>
              rw [hnode] at h
              exact hnext h
            | none =>
              rw [hnode] at h
              cases rest with
              | nil =>
                cases h
                exact ⟨hnode, place, name, rfl, rfl⟩
              | cons => cases h
    | file | sink | full => cases h

theorem free_resolve (h : d.resolve path = .ok (.free p)) :
    d.node? p = none ∧
      ∃ parent name, (Path.pieces path).getLast? = some name ∧ p = parent ++ [name] := by
  unfold resolve at h
  split at h
  · cases h
  · split at h
    · cases h
    · split at h
      · cases h
      · exact free_walk h

theorem resolve_of_free (h : d.Extends e) (hfree : d.resolve path = .ok (.free p)) :
    e.resolve path = .ok (e.targetAt p) := by
  have hleads := leads_resolve h path
  rwa [hfree] at hleads

/-! ## Directories that have been made -/

theorem isDirectory_extends (h : d.Extends e) (hdir : d.isDirectory path) : e.isDirectory path := by
  have hleads := leads_resolve h path
  unfold isDirectory at hdir ⊢
  split at hdir
  · rename_i p hp
    rw [hp] at hleads
    rw [hleads]
  · cases hdir

theorem makeDirectory_ok (h : d.makeDirectory path = .ok made) :
    d.Extends made ∧ made.isDirectory path := by
  unfold makeDirectory at h
  split at h
  · cases h
  · rename_i p hp
    cases h
    have hextends := extends_put (free_resolve hp).1 .directory
    refine ⟨hextends, ?_⟩
    rw [isDirectory, resolve_of_free hextends hp, targetAt_of_some (d.node?_put p .directory)]
  · cases h

theorem makeLeading_ok {count : Nat} (h : d.makeLeading path count = (made, none)) :
    d.Extends made ∧ (count = 0 ∨ made.isDirectory (Path.leading path count)) := by
  induction count generalizing made with
  | zero =>
    cases h
    exact ⟨.refl d, Or.inl rfl⟩
  | succ count ih =>
    simp only [makeLeading] at h
    split at h
    · rename_i made' hmade
      cases h
      obtain ⟨hextends, hdir⟩ := makeDirectory_ok hmade
      exact ⟨hextends, Or.inr hdir⟩
    · split at h
      · cases h
      · rename_i parent hparent
        obtain ⟨hbefore, -⟩ := ih hparent
        split at h
        · rename_i made' hmade
          cases h
          obtain ⟨hextends, hdir⟩ := makeDirectory_ok hmade
          exact ⟨hbefore.trans hextends, Or.inr hdir⟩
        · split at h
          · rename_i hdir
            cases h
            exact ⟨hbefore, Or.inr hdir⟩
          · cases h
    · split at h
      · rename_i hdir
        cases h
        exact ⟨.refl _, Or.inr hdir⟩
      · cases h

theorem makeLeading_of_isDirectory {count : Nat}
    (h : count = 0 ∨ d.isDirectory (Path.leading path count)) :
    d.makeLeading path count = (d, none) := by
  cases count with
  | zero => rfl
  | succ count =>
    have hdir : d.isDirectory (Path.leading path (count + 1)) := h.resolve_left (by omega)
    have hexists : d.makeDirectory (Path.leading path (count + 1)) = .error .exists := by
      unfold isDirectory at hdir
      split at hdir
      · rename_i hp
        simp only [makeDirectory, hp]
      · cases hdir
    simp only [makeLeading, hexists, hdir, if_true]

/-- **A directory that has been made** need not be made again. -/
theorem makeDirectories_again (h : d.makeDirectories dir = (made, none)) (he : made.Extends e) :
    e.makeDirectories dir = (e, none) := by
  obtain ⟨-, hmade⟩ := makeLeading_ok h
  exact makeLeading_of_isDirectory (hmade.imp_right (isDirectory_extends he))

/-! ## Files at a place -/

theorem fromUTF8?_toUTF8 (s : String) : String.fromUTF8? s.toUTF8 = some s :=
  dif_pos s.isValidUTF8

section Files

variable (hresolve : d.resolve path = .ok (d.targetAt p)) (hslash : Path.endsWithSlash path = false)

include hresolve

theorem readText_of_none (h : d.node? p = none) : d.readText path = .error .notFound := by
  rw [targetAt_of_none h] at hresolve
  simp only [readText, read, hresolve]

theorem remove_of_none (h : d.node? p = none) : d.remove path = .error .notFound := by
  rw [targetAt_of_none h] at hresolve
  simp only [remove, hresolve]

include hslash

theorem readText_of_file (h : d.node? p = some (.file text.toUTF8)) :
    d.readText path = .ok text := by
  rw [targetAt_of_some h] at hresolve
  simp only [readText, read, hresolve, hslash, Bool.false_eq_true, if_false, fromUTF8?_toUTF8]

theorem remove_of_file {bytes : ByteArray} (h : d.node? p = some (.file bytes)) :
    d.remove path = .ok (d.drop p) := by
  rw [targetAt_of_some h] at hresolve
  simp only [remove, hresolve, hslash, Bool.false_eq_true, if_false]

/-- A file is made empty before its text is put into it. -/
theorem write_eq (text : String) (h : d.node? p = none ∨ ∃ bytes, d.node? p = some (.file bytes)) :
    d.write path text
      = .ok ((d.put p (.file ByteArray.empty)).put p (.file text.toUTF8)) := by
  have hcreate : d.create path = .ok (p, d.put p (.file ByteArray.empty)) := by
    rcases h with hnone | ⟨bytes, hfile⟩
    · rw [targetAt_of_none hnone] at hresolve
      simp only [create, hresolve, hslash, Bool.false_eq_true, if_false]
    · rw [targetAt_of_some hfile] at hresolve
      simp only [create, hresolve, hslash, Bool.false_eq_true, if_false]
  simp only [write, hcreate, fill, node?_put]

end Files

end Disk

end Floorplan
