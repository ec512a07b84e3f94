import Floorplan.Proofs.Pattern.Groups
import Floorplan.Proofs.Pattern.Leads
import Floorplan.Proofs.Text.Digit

set_option autoImplicit false

/-! # Numbers in front of something

A pattern for a number with something behind it is looked for from one run of digits to the next. Text
without digits is skipped (`Pattern.find?_count_skip`), a number that the right thing does not follow is
passed by (`Pattern.find?_count_pass`), and of the first one that it follows all digits are taken
(`Pattern.find?_count_hit`). -/

namespace Floorplan.Pattern

variable {p q : Pattern} {k m : Cursor} {i : Nat} {d s u : List Char}

/-! ## Patterns without groups -/

/-- Does the pattern remember nothing? -/
def isGroupless : Pattern → Bool
  | group _ _ => false
  | andThen p q | orElse p q => p.isGroupless && q.isGroupless
  | _ => true

theorem groups_of_isGroupless (hp : p.isGroupless = true) (h : m ∈ p.ways k) :
    m.groups = k.groups := by
  induction p generalizing k m with
  | nothing => rw [List.mem_singleton.1 h]
  | atEnd =>
    obtain ⟨-, h⟩ := List.mem_ite_nil_right.1 h
    rw [List.mem_singleton.1 h]
  | one c =>
    simp only [ways] at h
    split at h
    · cases h
    · obtain ⟨-, h⟩ := List.mem_ite_nil_right.1 h
      rw [List.mem_singleton.1 h]
  | many c =>
    obtain ⟨r, -, rfl⟩ := List.mem_map.1 h
    rfl
  | few c =>
    obtain ⟨r, -, rfl⟩ := List.mem_map.1 h
    rfl
  | andThen p q ihp ihq =>
    obtain ⟨hleft, hright⟩ := Bool.and_eq_true_iff.1 hp
    obtain ⟨l, hl, hm⟩ := List.mem_flatMap.1 h
    rw [ihq hright hm, ihp hleft hl]
  | orElse p q ihp ihq =>
    obtain ⟨hleft, hright⟩ := Bool.and_eq_true_iff.1 hp
    exact (List.mem_append.1 h).elim (ihp hleft) (ihq hright)
  | group i p ih => cases hp

/-- What can be read without groups is led on with the groups that were there. -/
theorem exists_leads_of_isGroupless (hp : p.isGroupless = true) (hread : ∃ r, p.Reads s r)
    (g : List (Nat × List Char × List Char)) : ∃ r, p.Leads ⟨s, g⟩ ⟨r, g⟩ := by
  obtain ⟨r, hread⟩ := hread
  have hways : p.ways ⟨s, g⟩ ≠ [] := fun hnil => ways_eq_nil_iff.1 hnil r hread
  obtain ⟨m, later, hm⟩ := List.exists_cons_of_ne_nil hways
  have hgroups : m.groups = g := groups_of_isGroupless hp (hm ▸ List.mem_cons_self)
  refine ⟨m.rest, ?_⟩
  rw [Leads, hm, ← hgroups]
  rfl

/-! ## From one run of digits to the next -/

/-- What is read behind a number that is read: the digits that are left with the rest behind them. -/
theorem exists_of_reads_count (hs : ∀ x ∈ s.head?, Text.isDigit x = false) {r : List Char}
    (h : (count i).Reads (d ++ s) r) : ∃ v, v <:+ d ∧ r = v ++ s := by
  obtain ⟨x, u, hdigits, heq⟩ := reads_count.1 h
  rcases List.append_eq_append_iff.1 heq with ⟨w, hu, rfl⟩ | ⟨w, hw, rfl⟩
  · cases w with
    | nil => exact ⟨[], List.nil_suffix, rfl⟩
    | cons y w =>
      -- The digits would go on behind the run.
      have hy := hdigits y (hu ▸ List.mem_append_right d List.mem_cons_self)
      rw [hs y rfl] at hy
      cases hy
  · exact ⟨w, hw ▸ List.suffix_append _ w, rfl⟩

theorem find?_of_not_reads {x : Char} (h : ∀ r, ¬ p.Reads (x :: s) r) :
    p.find? (x :: s) = p.find? s := by
  rw [find?, matchAt?_eq_none_iff.2 h]

/-- Text without digits is skipped. -/
theorem find?_count_skip (hu : ∀ x ∈ u, Text.isDigit x = false) (s : List Char) :
    (andThen (count i) q).find? (u ++ s) = (andThen (count i) q).find? s := by
  induction u with
  | nil => rfl
  | cons x u ih =>
    obtain ⟨hx, hu⟩ := List.forall_mem_cons.1 hu
    rw [List.cons_append, find?_of_not_reads, ih hu]
    rintro r ⟨t, hcount, -⟩
    obtain ⟨y, v, hdigits, heq⟩ := reads_count.1 hcount
    obtain ⟨rfl, -⟩ := List.cons.inj heq
    rw [hdigits x List.mem_cons_self] at hx
    cases hx

/-- A number is not read with something that neither follows it nor begins with a digit. -/
theorem not_reads_count_andThen (hd : ∀ x ∈ d, Text.isDigit x = true)
    (hs : ∀ x ∈ s.head?, Text.isDigit x = false) (hrest : ∀ r, ¬ q.Reads s r)
    (hdigit : ∀ x t r, Text.isDigit x = true → ¬ q.Reads (x :: t) r) (r : List Char) :
    ¬ (andThen (count i) q).Reads (d ++ s) r := by
  rintro ⟨t, hcount, hq⟩
  obtain ⟨v, hv, rfl⟩ := exists_of_reads_count hs hcount
  cases v with
  | nil => exact hrest r hq
  | cons y v => exact hdigit y _ r (hd y (hv.subset List.mem_cons_self)) hq

/-- A number that the right thing does not follow is passed by. -/
theorem find?_count_pass (hd : ∀ x ∈ d, Text.isDigit x = true)
    (hs : ∀ x ∈ s.head?, Text.isDigit x = false) (hrest : ∀ r, ¬ q.Reads s r)
    (hdigit : ∀ x t r, Text.isDigit x = true → ¬ q.Reads (x :: t) r) :
    (andThen (count i) q).find? (d ++ s) = (andThen (count i) q).find? s := by
  induction d with
  | nil => rfl
  | cons x d ih =>
    have hnot := not_reads_count_andThen (i := i) hd hs hrest hdigit
    rw [List.cons_append] at hnot ⊢
    rw [find?_of_not_reads hnot, ih (List.forall_mem_cons.1 hd).2]

/-- All digits of a number are taken if the right thing follows. -/
theorem find?_count_hit (hne : d ≠ []) (hd : ∀ x ∈ d, Text.isDigit x = true)
    (hs : ∀ x ∈ s.head?, Text.isDigit x = false) (hq : q.isGroupless = true)
    (hread : ∃ r, q.Reads s r) :
    ∃ m, (andThen (count i) q).find? (d ++ s) = some m ∧ m.group? i = some d := by
  obtain ⟨r, hleads⟩ := exists_leads_of_isGroupless hq hread [(i, d ++ s, s)]
  exact ⟨_, ((leads_count i hne hd hs).andThen hleads).find?_eq, by simp [Match.group?]⟩

end Floorplan.Pattern
