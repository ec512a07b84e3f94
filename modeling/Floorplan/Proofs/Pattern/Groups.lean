import Floorplan.Proofs.Pattern.Reads
import Floorplan.Proofs.Text.Blank
import Floorplan.Intent.Family

set_option autoImplicit false

/-! # What the groups of a match hold

A group of a match is a piece of the text, and it holds only such characters as its pattern reads. The
pattern says which (`Pattern.GroupsWithin`), so what is known of a phrase is known of every name that is
found by it (`Match.name?_of_find?`). -/

namespace Floorplan

namespace Pattern

variable {f : Char → Prop} {p : Pattern} {k m : Cursor} {s r : List Char}

/-- Every character that the pattern reads has the property. -/
def Within (f : Char → Prop) : Pattern → Prop
  | one c | many c | few c => ∀ x, c.contains x = true → f x
  | andThen p q | orElse p q => p.Within f ∧ q.Within f
  | group _ p => p.Within f
  | nothing | atEnd => True

/-- Every character that is read in a group has the property. -/
def GroupsWithin (f : Char → Prop) : Pattern → Prop
  | andThen p q | orElse p q => p.GroupsWithin f ∧ q.GroupsWithin f
  | group _ p => p.Within f ∧ p.GroupsWithin f
  | _ => True

@[simp] theorem groupsWithin_word (f : Char → Prop) (w : String) : (word w).GroupsWithin f := by
  unfold word
  induction w.toList with
  | nil => trivial
  | cons x xs ih => exact ⟨trivial, ih⟩

@[simp] theorem groupsWithin_sequence {ps : List Pattern} :
    (sequence ps).GroupsWithin f ↔ ∀ p ∈ ps, p.GroupsWithin f := by
  unfold sequence
  induction ps with
  | nil => simp [GroupsWithin]
  | cons p ps ih => simp [GroupsWithin, ih]

@[simp] theorem groupsWithin_choice {ps : List Pattern} :
    (choice ps).GroupsWithin f ↔ ∀ p ∈ ps, p.GroupsWithin f := by
  induction ps with
  | nil => simp [choice, GroupsWithin]
  | cons p ps ih =>
    cases ps with
    | nil => simp [choice]
    | cons q ps => simp only [choice, GroupsWithin, ih, List.forall_mem_cons]

@[simp] theorem groupsWithin_optional : (optional p).GroupsWithin f ↔ p.GroupsWithin f :=
  and_iff_left trivial

@[simp] theorem groupsWithin_gap (f : Char → Prop) : gap.GroupsWithin f := ⟨trivial, trivial⟩

theorem within_exactly {w : String} (hw : ∀ x ∈ w.toList, f x) : (exactly w).Within f := by
  unfold exactly
  generalize w.toList = letters at hw
  induction letters with
  | nil => trivial
  | cons x xs ih =>
    obtain ⟨hx, hxs⟩ := List.forall_mem_cons.1 hw
    exact ⟨fun y hy => of_decide_eq_true hy ▸ hx, ih hxs⟩

theorem within_sequence {ps : List Pattern} : (sequence ps).Within f ↔ ∀ p ∈ ps, p.Within f := by
  unfold sequence
  induction ps with
  | nil => simp [Within]
  | cons p ps ih => simp [Within, ih]

theorem Reads.within (hp : p.Within f) (h : p.Reads s r) : ∃ u, (∀ x ∈ u, f x) ∧ s = u ++ r := by
  induction p generalizing s r with
  | nothing => exact ⟨[], by simp, h.symm⟩
  | atEnd => exact ⟨[], by simp, h.2.symm⟩
  | one c =>
    obtain ⟨x, hx, rfl⟩ := h
    exact ⟨[x], by simpa using hp x hx, rfl⟩
  | many c =>
    obtain ⟨u, hu, rfl⟩ := h
    exact ⟨u, fun x hx => hp x (hu x hx), rfl⟩
  | few c =>
    obtain ⟨u, hu, rfl⟩ := h
    exact ⟨u, fun x hx => hp x (hu x hx), rfl⟩
  | andThen p q ihp ihq =>
    obtain ⟨t, hread, hrest⟩ := h
    obtain ⟨u, hu, rfl⟩ := ihp hp.1 hread
    obtain ⟨v, hv, rfl⟩ := ihq hp.2 hrest
    refine ⟨u ++ v, fun x hx => ?_, (List.append_assoc ..).symm⟩
    rcases List.mem_append.1 hx with hx | hx
    · exact hu x hx
    · exact hv x hx
  | orElse p q ihp ihq => exact h.elim (ihp hp.1) (ihq hp.2)
  | group i p ih => exact ih hp h

/-- Does the pattern never read the character? -/
def skips (x : Char) : Pattern → Bool
  | one c | many c | few c => !c.contains x
  | andThen p q | orElse p q => p.skips x && q.skips x
  | group _ p => p.skips x
  | nothing | atEnd => true

theorem within_of_skips {x : Char} (h : p.skips x = true) : p.Within (· ≠ x) := by
  have hclass : ∀ {c : CharClass}, (!c.contains x) = true → ∀ y, c.contains y = true → y ≠ x := by
    rintro c hc y hy rfl
    rw [hy] at hc
    cases hc
  induction p with
  | nothing | atEnd => trivial
  | one c | many c | few c => exact hclass h
  | andThen p q ihp ihq | orElse p q ihp ihq =>
    obtain ⟨hp, hq⟩ := Bool.and_eq_true_iff.1 h
    exact ⟨ihp hp, ihq hq⟩
  | group i p ih => exact ih h

/-- What a group holds was read within it, and every other group was there before. -/
theorem groups_of_mem_ways (hp : p.GroupsWithin f) (h : m ∈ p.ways k) :
    ∀ g ∈ m.groups, g ∈ k.groups ∨
      g.2.1 <:+ k.rest ∧ ∃ u, (∀ x ∈ u, f x) ∧ g.2.1 = u ++ g.2.2 := by
  induction p generalizing k m with
  | nothing =>
    cases List.mem_singleton.1 h
    exact fun g hg => Or.inl hg
  | atEnd =>
    simp only [ways] at h
    split at h
    · cases List.mem_singleton.1 h
      exact fun g hg => Or.inl hg
    · cases h
  | one c =>
    simp only [ways] at h
    split at h
    · cases h
    · split at h
      · cases List.mem_singleton.1 h
        exact fun g hg => Or.inl hg
      · cases h
  | many c =>
    obtain ⟨r, -, rfl⟩ := List.mem_map.1 h
    exact fun g hg => Or.inl hg
  | few c =>
    obtain ⟨r, -, rfl⟩ := List.mem_map.1 h
    exact fun g hg => Or.inl hg
  | andThen p q ihp ihq =>
    obtain ⟨l, hl, hm⟩ := List.mem_flatMap.1 h
    have hsuffix : l.rest <:+ k.rest := (reads_of_mem_ways hl).suffix
    intro g hg
    rcases ihq hp.2 hm g hg with hg | ⟨hrest, hread⟩
    · exact ihp hp.1 hl g hg
    · exact Or.inr ⟨hrest.trans hsuffix, hread⟩
  | orElse p q ihp ihq =>
    rcases List.mem_append.1 h with h | h
    · exact ihp hp.1 h
    · exact ihq hp.2 h
  | group i p ih =>
    obtain ⟨l, hl, rfl⟩ := List.mem_map.1 h
    intro g hg
    rcases List.mem_cons.1 hg with rfl | hg
    · exact Or.inr ⟨List.suffix_rfl, (reads_of_mem_ways hl).within hp.1⟩
    · exact ih hp.2 hl g hg

end Pattern

namespace Match

variable {f : Char → Prop} {p : Pattern} {m : Match} {i : Nat} {s u v : List Char}

@[simp] theorem between_append (u v : List Char) : between (u ++ v) v = u := by
  simp [between]

/-- A group of a match is a piece of the text that holds what the pattern reads. -/
theorem group?_of_find? (hp : p.GroupsWithin f) (h : p.find? s = some m) (hu : m.group? i = some u) :
    u <:+: s ∧ ∀ x ∈ u, f x := by
  obtain ⟨hstart, hways⟩ := Pattern.exists_of_find? h
  obtain ⟨⟨a, b⟩, hlookup, rfl⟩ := Option.map_eq_some_iff.1 hu
  have hmem : (i, a, b) ∈ m.groups := by
    obtain ⟨l, l', hgroups, -⟩ := List.lookup_eq_some_iff.1 hlookup
    simp [hgroups]
  rcases Pattern.groups_of_mem_ways hp (List.mem_of_head? hways) _ hmem with hnone | ⟨hsuffix, v, hv, hab⟩
  · cases hnone
  · simp only at hsuffix hab
    subst hab
    rw [between_append]
    exact ⟨(List.infix_append_left).trans (hsuffix.isInfix.trans hstart.isInfix), hv⟩

/-- The number in a group is what its digits are read as. -/
theorem number?_of_lookup {i : Nat} {d t : List Char} (hm : m.groups.lookup i = some (d ++ t, t)) :
    m.number? i = Text.word? d := by
  rw [number?, group?, hm, Option.map_some, between_append, Option.bind_some]

/-- The name in a group is what the group holds without white space around it. -/
theorem name?_eq_some {n : String} :
    m.name? i = some n ↔
      ∃ u, m.group? i = some u ∧ Text.trimChars u ≠ [] ∧ n = String.ofList (Text.trimChars u) := by
  unfold name?
  rw [Option.bind_eq_some_iff]
  refine exists_congr fun u => and_congr_right fun _ => ?_
  cases h : Text.trimChars u with
  | nil => simp
  | cons x xs =>
    simp only [Option.some.injEq, ne_eq, reduceCtorEq, not_false_eq_true, true_and]
    exact eq_comm

end Match

/-- The text of a name: not empty, without white space at its ends, and of such characters. -/
structure NameOf (f : Char → Prop) (s : List Char) (n : String) : Prop where
  ne_nil : n.toList ≠ []
  trimmed : Text.Trimmed n.toList
  piece : n.toList <:+: s
  chars : ∀ x ∈ n.toList, f x

theorem Match.name?_of_find? {f : Char → Prop} {p : Pattern} {m : Match} {i : Nat} {s : List Char}
    {n : String} (hp : p.GroupsWithin f) (h : p.find? s = some m) (hn : m.name? i = some n) :
    NameOf f s n := by
  obtain ⟨u, hu, hne, rfl⟩ := name?_eq_some.1 hn
  obtain ⟨hpiece, hchars⟩ := group?_of_find? hp h hu
  have htrim := Text.trimChars_infix_self u
  refine ⟨?_, ?_, ?_, fun x hx => ?_⟩
  · simpa using hne
  · simpa using Text.trimmed_trimChars u
  · simpa using htrim.trans hpiece
  · exact hchars x (htrim.subset (by simpa using hx))

end Floorplan
