import Floorplan.Proofs.Pattern.Count

set_option autoImplicit false

/-! # The first number with something behind it

A pattern for a number with something behind it finds the first of all runs of digits that this follows,
and it finds the whole run (`Pattern.Behind.group?_count_eq_some_iff`). Behind a word it does so from the
first place on where there is such a number on the line
(`Pattern.Behind.group?_behindWord_eq_some_iff`).

Both are about the leftmost of the places where a text can be cut so that something holds of the two parts
(`Text.FirstCut`). A pattern that is read at no place before it is looked for behind it, so what has to be
known of a pattern is where it can be read: from there a run of digits is extended to the left as far as
it goes, which does not lead past the beginning of the line or back into the word. -/

namespace Floorplan

namespace Text

variable {C : List Char → List Char → Prop} {behind : List Char → Prop} {s t u r d v : List Char}

/-- The leftmost place where the text can be cut so that something holds of the parts. -/
structure FirstCut (C : List Char → List Char → Prop) (s u r : List Char) : Prop where
  eq : s = u ++ r
  holds : C u r
  first : ∀ u' r', s = u' ++ r' → C u' r' → u.length ≤ u'.length

theorem exists_firstCut (heq : s = u ++ r) (h : C u r) : ∃ u r, FirstCut C s u r := by
  induction hn : u.length using Nat.strong_induction_on generalizing u r with
  | _ n ih =>
    by_cases hfirst : ∀ u' r', s = u' ++ r' → C u' r' → u.length ≤ u'.length
    · exact ⟨u, r, heq, h, hfirst⟩
    · push Not at hfirst
      obtain ⟨u', r', heq', h', hlt⟩ := hfirst
      exact ih u'.length (hn ▸ hlt) heq' h' rfl

/-- A run of digits as far as it goes, with the text in front of it and behind it. -/
structure DigitRun (u d v : List Char) : Prop where
  ne_nil : d ≠ []
  digits : ∀ x ∈ d, isDigit x = true
  left : ∀ x ∈ u.getLast?, isDigit x = false
  right : ∀ x ∈ v.head?, isDigit x = false

theorem takeWhile_append_eq {p : Char → Bool} (hu : ∀ x ∈ u, p x = true)
    (hr : ∀ x ∈ r.head?, p x = false) : (u ++ r).takeWhile p = u := by
  rw [List.takeWhile_append_of_pos hu]
  cases r with
  | nil => simp
  | cons x r =>
    have hx : p x = false := hr x rfl
    simp [hx]

/-- There is no other run of digits where one begins. -/
theorem DigitRun.unique {d' v' : List Char} (h : DigitRun u d v) (h' : DigitRun u d' v')
    (heq : d ++ v = d' ++ v') : d = d' := by
  rw [← takeWhile_append_eq h.digits h.right, heq, takeWhile_append_eq h'.digits h'.right]

/-- The second part begins with a run of digits, and the right thing follows it. -/
def Counted (behind : List Char → Prop) (u r : List Char) : Prop :=
  ∃ d v, r = d ++ v ∧ DigitRun u d v ∧ behind v

/-- The run of digits is the first one in the text that the right thing follows. -/
def FirstCounted (behind : List Char → Prop) (s d : List Char) : Prop :=
  ∃ u v, FirstCut (Counted behind) s u (d ++ v) ∧ DigitRun u d v

/-- There is such a run of digits before the line ends. -/
def CountedOnLine (behind : List Char → Prop) (t : List Char) : Prop :=
  ∃ u r, t = u ++ r ∧ '\n' ∉ u ∧ Counted behind u r

/-- White space as far as it goes. -/
structure IsGap (b t : List Char) : Prop where
  ne_nil : b ≠ []
  blank : ∀ x ∈ b, isBlank x = true
  right : ∀ x ∈ t.head?, isBlank x = false

theorem IsGap.unique {b b' t' : List Char} (h : IsGap b t) (h' : IsGap b' t')
    (heq : b ++ t = b' ++ t') : b = b' := by
  rw [← takeWhile_append_eq h.blank h.right, heq, takeWhile_append_eq h'.blank h'.right]

/-- The second part begins with a word and white space, and such a run of digits is on the line then. -/
def Opened (w : String) (behind : List Char → Prop) (_ r : List Char) : Prop :=
  ∃ b t, r = w.toList ++ (b ++ t) ∧ IsGap b t ∧ CountedOnLine behind t

/-- The run of digits is the first one that the right thing follows, behind the first of all places
    where the word stands in front of one on a line. -/
def FirstCountedBehind (w : String) (behind : List Char → Prop) (s d : List Char) : Prop :=
  ∃ u b t, FirstCut (Opened w behind) s u (w.toList ++ (b ++ t)) ∧ IsGap b t ∧
    FirstCounted behind t d

theorem exists_firstCounted (heq : s = u ++ r) (h : Counted behind u r) :
    ∃ d, FirstCounted behind s d := by
  obtain ⟨u, r, hcut⟩ := exists_firstCut heq h
  obtain ⟨d, v, rfl, hrun, hv⟩ := hcut.holds
  exact ⟨d, u, v, hcut, hrun⟩

theorem exists_firstCountedBehind {w : String} (heq : s = u ++ r) (h : Opened w behind u r) :
    ∃ d, FirstCountedBehind w behind s d := by
  obtain ⟨u, r, hcut⟩ := exists_firstCut heq h
  obtain ⟨b, t, rfl, hgap, g, e, rfl, -, hcounted⟩ := hcut.holds
  obtain ⟨d, hd⟩ := exists_firstCounted rfl hcounted
  exact ⟨d, u, b, g ++ e, hcut, hgap, hd⟩

/-- The digits at the end of a text. -/
theorem exists_lastDigits (s : List Char) :
    ∃ u d, s = u ++ d ∧ (∀ x ∈ d, isDigit x = true) ∧ ∀ x ∈ u.getLast?, isDigit x = false := by
  induction s using List.reverseRecOn with
  | nil => exact ⟨[], [], rfl, by simp, by simp⟩
  | append_singleton s x ih =>
    by_cases hx : isDigit x = true
    · obtain ⟨u, d, rfl, hd, hu⟩ := ih
      refine ⟨u, d ++ [x], List.append_assoc .., fun y hy => ?_, hu⟩
      rcases List.mem_append.1 hy with hy | hy
      · exact hd y hy
      · rw [List.mem_singleton.1 hy, hx]
    · exact ⟨s ++ [x], [], by simp, by simp, by simpa using hx⟩

end Text

namespace Pattern

open Text

variable {p q : Pattern} {i : Nat} {w : String} {behind : List Char → Prop} {s t u r d : List Char}

/-! ## Where nothing is read before -/

theorem find?_append_of_not_reads
    (h : ∀ u' r', u ++ s = u' ++ r' → u'.length < u.length → ∀ z, ¬ p.Reads r' z) :
    p.find? (u ++ s) = p.find? s := by
  induction u with
  | nil => rfl
  | cons x u ih =>
    have hnone : ∀ z, ¬ p.Reads (x :: (u ++ s)) z := h [] (x :: (u ++ s)) rfl (Nat.succ_pos _)
    rw [List.cons_append, find?_of_not_reads hnone]
    refine ih fun u' r' heq hlt => ?_
    exact h (x :: u') r' (by rw [List.cons_append, heq, List.cons_append]) (Nat.succ_lt_succ hlt)

/-- A pattern that is only read where a cut can be made, or behind such a place, is looked for from the
    first cut on. -/
theorem find?_of_firstCut {C : List Char → List Char → Prop} (hcut : FirstCut C s u r)
    (hread : ∀ u' r' z, s = u' ++ r' → p.Reads r' z →
      ∃ u₁ r₁, s = u₁ ++ r₁ ∧ u₁.length ≤ u'.length ∧ C u₁ r₁) :
    p.find? s = p.find? r := by
  rw [hcut.eq]
  refine find?_append_of_not_reads fun u' r' heq hlt z hz => ?_
  obtain ⟨u₁, r₁, heq₁, hle, hC⟩ := hread u' r' z (hcut.eq.trans heq) hz
  have hfirst := hcut.first u₁ r₁ heq₁ hC
  omega

/-! ## Numbers with something behind them -/

/-- What a group holds in what is found is told by any description that everything read calls for. -/
theorem bind_group?_eq_some_iff {F : List Char → Prop}
    (hfound : ∀ d, F d → ∃ m, p.find? s = some m ∧ m.group? i = some d)
    (hread : ∀ t z, t <:+ s → p.Reads t z → ∃ d, F d) :
    (p.find? s).bind (·.group? i) = some d ↔ F d := by
  constructor
  · intro h
    obtain ⟨m, hm, hgroup⟩ := Option.bind_eq_some_iff.1 h
    obtain ⟨t, z, ht, hz⟩ := find?_ne_none_iff.1 (Option.ne_none_iff_exists'.2 ⟨m, hm⟩)
    obtain ⟨d', hd'⟩ := hread t z ht hz
    obtain ⟨m', hm', hgroup'⟩ := hfound d' hd'
    rw [hm] at hm'
    cases hm'
    rw [hgroup] at hgroup'
    cases hgroup'
    exact hd'
  · intro hd
    obtain ⟨m, hm, hgroup⟩ := hfound d hd
    rw [hm, Option.bind_some, hgroup]

/-- A number on one line behind a word. -/
def behindWord (w : String) (q : Pattern) : Pattern :=
  sequence [exactly w, gap, few .sameLine, andThen (count 1) q]

/-- What stands behind a number is told by a pattern, which remembers nothing and does not begin with a
    digit. -/
structure Behind (q : Pattern) (behind : List Char → Prop) : Prop where
  groupless : q.isGroupless = true
  reads_iff : ∀ v, (∃ z, q.Reads v z) ↔ behind v
  not_digit : ∀ x t, isDigit x = true → ¬ behind (x :: t)

namespace Behind

/-- Where a number is read, the run of digits that it belongs to has the right thing behind it. -/
theorem counted (hq : Behind q behind) {z : List Char} (h : (andThen (count i) q).Reads r z)
    (u : List Char) : ∃ u₁ r₁, u ++ r = u₁ ++ r₁ ∧ u₁ <+: u ∧ Counted behind u₁ r₁ := by
  obtain ⟨v, hcount, hv⟩ := h
  obtain ⟨x, e, hdigits, rfl⟩ := reads_count.1 hcount
  have hbehind : behind v := (hq.reads_iff v).1 ⟨z, hv⟩
  obtain ⟨u₁, d, rfl, hd, hleft⟩ := exists_lastDigits u
  refine ⟨u₁, d ++ (x :: e) ++ v, by simp, List.prefix_append u₁ d, d ++ (x :: e), v, rfl, ?_, hbehind⟩
  refine ⟨by simp, fun y hy => ?_, hleft, fun y hy => ?_⟩
  · exact (List.mem_append.1 hy).elim (hd y) (hdigits y)
  · by_contra hdigit
    rw [Bool.not_eq_false] at hdigit
    obtain ⟨v', rfl⟩ := List.head?_eq_some_iff.1 hy
    exact hq.not_digit y v' hdigit hbehind

theorem find?_of_counted (hq : Behind q behind) (h : FirstCounted behind s d) :
    ∃ m, (andThen (count i) q).find? s = some m ∧ m.group? i = some d := by
  obtain ⟨u, v, hcut, hrun⟩ := h
  obtain ⟨d', v', heq, hrun', hv'⟩ := hcut.holds
  obtain rfl := hrun.unique hrun' heq
  obtain rfl := List.append_cancel_left heq
  have hstart : (andThen (count i) q).find? s = (andThen (count i) q).find? (d ++ v) := by
    refine find?_of_firstCut hcut fun u' r' z heq hz => ?_
    obtain ⟨u₁, r₁, heq₁, hbegins, hcounted⟩ := hq.counted hz u'
    exact ⟨u₁, r₁, heq.trans heq₁, hbegins.length_le, hcounted⟩
  rw [hstart]
  exact find?_count_hit hrun.ne_nil hrun.digits hrun.right hq.groupless ((hq.reads_iff v).2 hv')

/-- **The number that is found** is the first one with the right thing behind it. -/
theorem group?_count_eq_some_iff (hq : Behind q behind) :
    ((andThen (count i) q).find? s).bind (·.group? i) = some d ↔ FirstCounted behind s d := by
  refine bind_group?_eq_some_iff (fun d hd => hq.find?_of_counted hd) ?_
  rintro t z ⟨u, rfl⟩ hz
  obtain ⟨u₁, r₁, heq, -, hcounted⟩ := hq.counted hz u
  exact exists_firstCounted heq hcounted

/-! ## Numbers behind a word on the same line -/

/-- Where the pattern is read, the word stands in front of white space and such a number. What is read
    of the white space may be less than there is; what is left of it is on the way to the number. -/
theorem opened (hq : Behind q behind) {z : List Char} (h : (behindWord w q).Reads r z)
    (u : List Char) : Opened w behind u r := by
  obtain ⟨r₁, hword, r₂, hgap, r₃, ⟨g, hline, rfl⟩, r₄, hnumber, -⟩ := h
  obtain ⟨x, b, hblank, rfl⟩ := reads_gap.1 hgap
  have hsplit : g ++ r₃ = g.takeWhile isBlank ++ (g.dropWhile isBlank ++ r₃) := by
    rw [← List.append_assoc, List.takeWhile_append_dropWhile]
  obtain ⟨u₁, r₁', heq, hbegins, hcounted⟩ := hq.counted hnumber (g.dropWhile isBlank)
  refine ⟨x :: b ++ g.takeWhile isBlank, g.dropWhile isBlank ++ r₃, ?_, ?_, u₁, r₁', heq, ?_, hcounted⟩
  · rw [reads_exactly.1 hword, hsplit, List.append_assoc]
  · refine ⟨by simp, fun y hy => ?_, ?_⟩
    · exact (List.mem_append.1 hy).elim (hblank y) fun hy => List.mem_takeWhile_imp hy
    · by_cases hrest : g.dropWhile isBlank = []
      · -- Nothing is left of what was skipped, so the number itself begins.
        obtain ⟨v, hcount, -⟩ := hnumber
        obtain ⟨e, digits, hdigits, rfl⟩ := reads_count.1 hcount
        intro y hy
        rw [hrest] at hy
        obtain rfl : e = y := Option.some.inj hy
        exact isBlank_of_isDigit (hdigits e List.mem_cons_self)
      · exact isBlank_head_append hrest (head_trimLeft g) r₃
  · intro hfeed
    have hmem : '\n' ∈ g := (List.dropWhile_suffix _).subset (hbegins.subset hfeed)
    exact absurd (hline _ hmem) (by decide)

/-- If a number with the right thing behind it is on the line, the first one is. -/
theorem sameLine_of_first {v : List Char} (hfirst : FirstCut (Counted behind) t u (d ++ v))
    (h : CountedOnLine behind t) : ∀ x ∈ u, CharClass.sameLine.contains x = true := by
  obtain ⟨u', r', heq, hline, hcounted⟩ := h
  have hle : u.length ≤ u'.length := hfirst.first u' r' heq hcounted
  have hbegins : u <+: u' :=
    List.prefix_of_prefix_length_le ⟨_, (hfirst.eq.symm.trans heq)⟩ (List.prefix_append u' r') hle
  intro x hx
  have hne : x ≠ '\n' := fun hfeed => hline (hfeed ▸ hbegins.subset hx)
  simpa [CharClass.contains] using hne

/-- What is skipped on the line goes up to the first number with the right thing behind it. -/
theorem exists_leads_skipped (hq : Behind q behind) {v : List Char} (hrun : DigitRun u d v)
    (hfirst : FirstCut (Counted behind) t u (d ++ v)) (hv : behind v)
    (hline : ∀ x ∈ u, CharClass.sameLine.contains x = true) :
    ∃ z, (andThen (few .sameLine) (andThen (andThen (count 1) q) nothing)).Leads ⟨t, []⟩
      ⟨z, [(1, d ++ v, v)]⟩ := by
  obtain ⟨z, hbehind⟩ := exists_leads_of_isGroupless hq.groupless ((hq.reads_iff v).2 hv)
    [(1, d ++ v, v)]
  have hnumber : (andThen (count 1) q).Leads ⟨d ++ v, []⟩ ⟨z, [(1, d ++ v, v)]⟩ :=
    (leads_count 1 hrun.ne_nil hrun.digits hrun.right).andThen hbehind
  obtain ⟨shorter, hways, hshorter⟩ := CharClass.restsReluctant_append hline (d ++ v)
  obtain ⟨later, hlater⟩ := CharClass.exists_restsReluctant .sameLine (d ++ v)
  have hall : (few .sameLine).ways ⟨t, []⟩
      = shorter.map (fun r => ⟨r, []⟩) ++ ⟨d ++ v, []⟩ :: later.map (fun r => ⟨r, []⟩) := by
    simp only [ways, hfirst.eq, hways, hlater, List.map_append, List.map_cons]
  refine ⟨z, Leads.andThen_of_ways hall ?_ (hnumber.andThen (leads_nothing _))⟩
  -- If less is skipped, no number can be read: it would be an earlier one.
  intro k hk r hread
  obtain ⟨r', hr', rfl⟩ := List.mem_map.1 hk
  obtain ⟨e, hne, ⟨e', rfl⟩, rfl⟩ := hshorter r' hr'
  obtain ⟨y, hread, -⟩ := hread
  obtain ⟨u', r', heq, hbegins, hcounted⟩ := hq.counted hread e'
  have hsplit : t = u' ++ r' := by rw [hfirst.eq, List.append_assoc, heq]
  have hle := hfirst.first u' r' hsplit hcounted
  have hle' := hbegins.length_le
  have hpos := List.length_pos_iff.2 hne
  simp only [List.length_append] at hle
  omega

theorem find?_of_opened (hq : Behind q behind) (h : FirstCountedBehind w behind s d) :
    ∃ m, (behindWord w q).find? s = some m ∧ m.group? 1 = some d := by
  obtain ⟨u, b, t, hcut, hgap, u₁, v, hfirst, hrun⟩ := h
  obtain ⟨b', t', heq, hgap', honLine⟩ := hcut.holds
  have hbehindWord : b ++ t = b' ++ t' := List.append_cancel_left heq
  obtain rfl := hgap.unique hgap' hbehindWord
  obtain rfl := List.append_cancel_left hbehindWord
  obtain ⟨d', v', heq', hrun', hv'⟩ := hfirst.holds
  obtain rfl := hrun.unique hrun' heq'
  obtain rfl := List.append_cancel_left heq'
  obtain ⟨z, hskip⟩ := hq.exists_leads_skipped hrun hfirst hv' (sameLine_of_first hfirst honLine)
  have hgapLeads : gap.Leads ⟨b ++ t, []⟩ ⟨t, []⟩ :=
    leads_oneOrMore (c := .blank) hgap.ne_nil hgap.blank hgap.right
  have hleads : (behindWord w q).Leads ⟨w.toList ++ (b ++ t), []⟩ ⟨z, [(1, d ++ v, v)]⟩ :=
    (leads_exactly w _).andThen (hgapLeads.andThen hskip)
  have hstart : (behindWord w q).find? s = (behindWord w q).find? (w.toList ++ (b ++ t)) :=
    find?_of_firstCut hcut fun u' r' z heq' hz => ⟨u', r', heq', le_rfl, hq.opened hz u'⟩
  exact ⟨_, hstart.trans hleads.find?_eq, by simp [Match.group?]⟩

/-- **The number that is found behind a word** is the first one with the right thing behind it, from the
    first place on where the word stands in front of one on a line. -/
theorem group?_behindWord_eq_some_iff (hq : Behind q behind) :
    ((behindWord w q).find? s).bind (·.group? 1) = some d ↔ FirstCountedBehind w behind s d := by
  refine bind_group?_eq_some_iff (fun d hd => hq.find?_of_opened hd) ?_
  rintro t z ⟨u, rfl⟩ hz
  exact exists_firstCountedBehind rfl (hq.opened hz u)

end Behind

end Pattern

end Floorplan
