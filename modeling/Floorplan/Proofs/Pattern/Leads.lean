import Floorplan.Proofs.Pattern.Reads
import Floorplan.Proofs.Text.Blank

set_option autoImplicit false

/-! # The first way to match

The match is the first of all ways, so what a pattern finds is known as soon as its first way is.
`Pattern.Leads` says which it is. Where no choice has to be taken back, the first way of a sequence
consists of the first ways of its parts (`Leads.andThen`); where one has to, the choices in front of the
one that is taken must lead nowhere (`Leads.andThen_of_ways`). -/

namespace Floorplan

namespace CharClass

variable {c : CharClass} {u v : List Char}

/-- The longest run comes first. -/
theorem head_restsGreedy (hu : ∀ x ∈ u, c.contains x = true)
    (hv : ∀ x ∈ v.head?, c.contains x = false) : (c.restsGreedy (u ++ v)).head? = some v := by
  induction u with
  | nil =>
    cases v with
    | nil => rfl
    | cons x xs =>
      have hx := hv x rfl
      simp [restsGreedy, hx]
  | cons x u ih =>
    obtain ⟨hx, hu⟩ := List.forall_mem_cons.1 hu
    simp [restsGreedy, hx, ih hu]

/-- Runs that are longer come first. -/
theorem restsGreedy_append (hu : ∀ x ∈ u, c.contains x = true) (v : List Char) :
    ∃ shorter, c.restsGreedy (u ++ v) = c.restsGreedy v ++ shorter := by
  induction u with
  | nil => exact ⟨[], (List.append_nil _).symm⟩
  | cons x u ih =>
    obtain ⟨hx, hu⟩ := List.forall_mem_cons.1 hu
    obtain ⟨shorter, h⟩ := ih hu
    exact ⟨shorter ++ [x :: (u ++ v)], by simp [restsGreedy, hx, h]⟩

/-- Runs that end early come first. -/
theorem restsReluctant_append (hu : ∀ x ∈ u, c.contains x = true) (v : List Char) :
    ∃ longer, c.restsReluctant (u ++ v) = longer ++ c.restsReluctant v ∧
      ∀ t ∈ longer, ∃ w, w ≠ [] ∧ w <:+ u ∧ t = w ++ v := by
  induction u with
  | nil => exact ⟨[], rfl, by simp⟩
  | cons x u ih =>
    obtain ⟨hx, hu⟩ := List.forall_mem_cons.1 hu
    obtain ⟨longer, h, hlonger⟩ := ih hu
    refine ⟨(x :: (u ++ v)) :: longer, by simp [restsReluctant, hx, h], ?_⟩
    refine List.forall_mem_cons.2 ⟨⟨x :: u, by simp, List.suffix_rfl, rfl⟩, fun t ht => ?_⟩
    obtain ⟨w, hne, hw, ht⟩ := hlonger t ht
    exact ⟨w, hne, hw.trans (List.suffix_cons x u), ht⟩

theorem exists_restsReluctant (c : CharClass) (s : List Char) :
    ∃ later, c.restsReluctant s = s :: later := by
  cases s with
  | nil => exact ⟨[], rfl⟩
  | cons x xs => exact ⟨_, rfl⟩

end CharClass

namespace Pattern

/-- The first way to match at the one cursor leads to the other. -/
def Leads (p : Pattern) (k m : Cursor) : Prop := (p.ways k).head? = some m

variable {p q : Pattern} {k l m : Cursor} {c : CharClass} {g : List (Nat × List Char × List Char)}
  {s r u : List Char}

theorem Leads.reads (h : p.Leads k m) : p.Reads k.rest m.rest :=
  reads_of_mem_ways (List.mem_of_head? h)

/-- What leads on from the beginning of a text is found there. -/
theorem Leads.find?_eq (h : p.Leads ⟨s, []⟩ m) : p.find? s = some ⟨s, m.rest, m.groups⟩ := by
  have hmatch : p.matchAt? s = some ⟨s, m.rest, m.groups⟩ := by
    rw [matchAt?_eq, h]
    rfl
  cases s with
  | nil => exact hmatch
  | cons x xs => rw [find?, hmatch]

/-! ## Sequences and alternatives -/

theorem leads_nothing (k : Cursor) : nothing.Leads k k := rfl

theorem Leads.andThen_of_ways {before after : List Cursor} (hways : p.ways k = before ++ l :: after)
    (hbefore : ∀ x ∈ before, ∀ r, ¬ q.Reads x.rest r) (hq : q.Leads l m) :
    (andThen p q).Leads k m := by
  have hnone : before.flatMap q.ways = [] := by
    rw [List.flatMap_eq_nil_iff]
    exact fun x hx => ways_eq_nil_iff.2 (hbefore x hx)
  unfold Leads at hq ⊢
  simp only [ways, hways, List.flatMap_append, hnone, List.nil_append, List.flatMap_cons,
    List.head?_append, hq, Option.some_or]

theorem Leads.andThen (hp : p.Leads k l) (hq : q.Leads l m) : (andThen p q).Leads k m := by
  obtain ⟨after, hways⟩ := List.head?_eq_some_iff.1 hp
  have hways' : p.ways k = [] ++ l :: after := hways
  exact andThen_of_ways hways' (by simp) hq

/-- The first way of a sequence is, in the end, a first way of its last part. -/
theorem Leads.exists_of_andThen (h : (Pattern.andThen p q).Leads k m) :
    ∃ l ∈ p.ways k, q.Leads l m := by
  replace h : ((p.ways k).flatMap q.ways).head? = some m := h
  unfold Leads
  generalize p.ways k = all at h ⊢
  induction all with
  | nil => simp at h
  | cons l ls ih =>
    rw [List.flatMap_cons, List.head?_append] at h
    cases hl : (q.ways l).head? with
    | some m' =>
      rw [hl] at h
      exact ⟨l, List.mem_cons_self, hl.trans h⟩
    | none =>
      rw [hl] at h
      obtain ⟨l', hl', hm⟩ := ih h
      exact ⟨l', List.mem_cons_of_mem l hl', hm⟩

theorem Leads.orElse (h : p.Leads k m) : (orElse p q).Leads k m := by
  unfold Leads at h ⊢
  simp only [ways, List.head?_append, h, Option.some_or]

theorem Leads.orElse_right (hp : ∀ r, ¬ p.Reads k.rest r) (h : q.Leads k m) :
    (Pattern.orElse p q).Leads k m := by
  unfold Leads at h ⊢
  rw [ways, ways_eq_nil_iff.2 hp, List.nil_append, h]

theorem Leads.group (i : Nat) (h : p.Leads k m) :
    (group i p).Leads k { m with groups := (i, k.rest, m.rest) :: m.groups } := by
  unfold Leads at h ⊢
  simp only [ways, List.head?_map, h, Option.map_some]

theorem Leads.optional (h : p.Leads k m) : (optional p).Leads k m := Leads.orElse h

theorem leads_optional_of_not (h : ∀ r, ¬ p.Reads k.rest r) : (optional p).Leads k k :=
  Leads.orElse_right h (leads_nothing k)

/-- What a sequence leads to its last part leads to, from some place further on. -/
theorem Leads.exists_of_sequence {ps : List Pattern} (h : (sequence (ps ++ [q])).Leads k m) :
    ∃ l, l.rest <:+ k.rest ∧ q.Leads l m := by
  induction ps generalizing k with
  | nil =>
    have hways : (sequence [q]).ways k = q.ways k := List.flatMap_singleton' _
    refine ⟨k, List.suffix_rfl, ?_⟩
    rw [List.nil_append, Leads, hways] at h
    exact h
  | cons p ps ih =>
    obtain ⟨l, hl, htail⟩ := Leads.exists_of_andThen (p := p) (q := sequence (ps ++ [q])) h
    obtain ⟨l', hsuffix, hq⟩ := ih htail
    exact ⟨l', hsuffix.trans (reads_of_mem_ways hl).suffix, hq⟩

/-! ## Characters and words -/

theorem leads_one {x : Char} (hx : c.contains x = true) : (one c).Leads ⟨x :: r, g⟩ ⟨r, g⟩ := by
  simp [Leads, ways, hx]

theorem leads_many (hu : ∀ x ∈ u, c.contains x = true) (hr : ∀ x ∈ r.head?, c.contains x = false) :
    (many c).Leads ⟨u ++ r, g⟩ ⟨r, g⟩ := by
  simp [Leads, ways, CharClass.head_restsGreedy hu hr]

theorem leads_oneOrMore (hne : u ≠ []) (hu : ∀ x ∈ u, c.contains x = true)
    (hr : ∀ x ∈ r.head?, c.contains x = false) : (oneOrMore c).Leads ⟨u ++ r, g⟩ ⟨r, g⟩ := by
  cases u with
  | nil => exact absurd rfl hne
  | cons x u =>
    obtain ⟨hx, hu⟩ := List.forall_mem_cons.1 hu
    exact (leads_one hx).andThen (leads_many hu hr)

/-- All white space is taken. -/
theorem leads_gap {x : Char} (hx : Text.isBlank x = true) (s : List Char) :
    gap.Leads ⟨x :: s, g⟩ ⟨Text.trimLeft s, g⟩ := by
  have hs : x :: s = (x :: s.takeWhile Text.isBlank) ++ Text.trimLeft s := by
    simp [Text.trimLeft]
  rw [hs]
  refine leads_oneOrMore (List.cons_ne_nil x _) ?_ (Text.head_trimLeft s)
  exact List.forall_mem_cons.2 ⟨hx, fun y hy => List.mem_takeWhile_imp hy⟩

theorem leads_gap_of_head {x : Char} (hx : Text.isBlank x = true)
    (hs : ∀ y ∈ s.head?, Text.isBlank y = false) : gap.Leads ⟨x :: s, g⟩ ⟨s, g⟩ := by
  have h := leads_gap (g := g) hx s
  rwa [Text.trimLeft_of_head hs] at h

/-- The white space between two words is read up to the second one. -/
theorem leads_gap_before (hne : u ≠ []) (hu : ∀ x ∈ u.head?, Text.isBlank x = false) (s : List Char) :
    gap.Leads ⟨' ' :: (u ++ s), g⟩ ⟨u ++ s, g⟩ :=
  leads_gap_of_head rfl (Text.isBlank_head_append hne hu s)

theorem leads_word {w : String} (hu : u.map foldLetter = w.toList.map foldLetter) (r : List Char) :
    (word w).Leads ⟨u ++ r, g⟩ ⟨r, g⟩ := by
  unfold word
  generalize w.toList = letters at hu
  induction letters generalizing u with
  | nil =>
    cases List.map_eq_nil_iff.1 hu
    exact leads_nothing _
  | cons x xs ih =>
    obtain ⟨y, v, rfl, hy, hv⟩ := List.map_eq_cons_iff.1 hu
    exact (leads_one (by simpa [CharClass.contains] using hy)).andThen (ih hv)

theorem leads_exactly (w : String) (r : List Char) :
    (exactly w).Leads ⟨w.toList ++ r, g⟩ ⟨r, g⟩ := by
  unfold exactly
  induction w.toList with
  | nil => exact leads_nothing _
  | cons x xs ih => exact (leads_one (by simp [CharClass.contains])).andThen ih

/-- White space that may be missing is all taken. -/
theorem leads_space (s : List Char) : space.Leads ⟨s, g⟩ ⟨Text.trimLeft s, g⟩ := by
  have h := leads_many (c := .blank) (u := s.takeWhile Text.isBlank) (g := g)
    (fun x hx => List.mem_takeWhile_imp hx) (Text.head_trimLeft s)
  rwa [Text.trimLeft, List.takeWhile_append_dropWhile] at h

/-- A number is read up to its end. -/
theorem leads_count (i : Nat) (hne : u ≠ []) (hu : ∀ x ∈ u, Text.isDigit x = true)
    (hr : ∀ x ∈ r.head?, Text.isDigit x = false) :
    (count i).Leads ⟨u ++ r, g⟩ ⟨r, (i, u ++ r, r) :: g⟩ :=
  (leads_oneOrMore (c := .digit) hne hu hr).group i

/-- At the end of a text a number is read to its last digit. -/
theorem leads_count_atEnd (i : Nat) (hne : u ≠ []) (hu : ∀ x ∈ u, Text.isDigit x = true) :
    (count i).Leads ⟨u, g⟩ ⟨[], (i, u, []) :: g⟩ := by
  have h := leads_count (g := g) (r := []) i hne hu (by simp)
  rwa [List.append_nil] at h

end Pattern

end Floorplan
