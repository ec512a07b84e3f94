import Floorplan.Proofs.Pattern.Leads

set_option autoImplicit false

/-! # Matches that something does not follow

A repeated search takes the most preferred match at each place and goes on behind it, so refusing some of
its matches is in general not the same as looking for a match that may be accepted:
`Pattern.findUnlessAhead?` tries every place and, at each, every way to match.

For a word that may have a plural `s`, and that cannot begin inside itself, the two agree
(`Pattern.Plural.findUnlessFollowed?_eq`). There is at most one way to match the word up to the `s`
(`Pattern.Single`), so the two ends that `Pattern.findUnlessFollowed?` looks at are all there are, and no
place is passed over at which the word could have been read. -/

namespace Floorplan

namespace Pattern

variable {p q ahead : Pattern} {k : Cursor} {c : CharClass} {s t u r : List Char}

/-! ## The search with a look ahead -/

/-- The most preferred match at the very beginning of the text that `ahead` does not follow. -/
def matchUnlessAhead? (p ahead : Pattern) (s : List Char) : Option Match :=
  ((p.ways ⟨s, []⟩).find? fun k => !ahead.startsText k.rest).map fun k => ⟨s, k.rest, k.groups⟩

/-- The leftmost match in the text that `ahead` does not follow. -/
def findUnlessAhead? (p ahead : Pattern) : List Char → Option Match
  | [] => p.matchUnlessAhead? ahead []
  | c :: rest =>
    match p.matchUnlessAhead? ahead (c :: rest) with
    | some m => some m
    | none => p.findUnlessAhead? ahead rest

theorem matchUnlessAhead?_eq_none_iff :
    p.matchUnlessAhead? ahead s = none ↔ ∀ r, p.Reads s r → ahead.startsText r = true := by
  simp only [matchUnlessAhead?, Option.map_eq_none_iff, List.find?_eq_none, Bool.not_eq_true',
    Bool.not_eq_false]
  constructor
  · intro h r hr
    obtain ⟨m, hm, rfl⟩ := (exists_ways_iff p ⟨s, []⟩ r).2 hr
    exact h m hm
  · exact fun h m hm => h m.rest (reads_of_mem_ways hm)

/-- Places at which there is no such match are passed by. -/
theorem findUnlessAhead?_append
    (h : ∀ v, v ≠ [] → v <:+ u → p.matchUnlessAhead? ahead (v ++ t) = none) :
    p.findUnlessAhead? ahead (u ++ t) = p.findUnlessAhead? ahead t := by
  induction u with
  | nil => rfl
  | cons x u ih =>
    have hx := h (x :: u) (List.cons_ne_nil x u) List.suffix_rfl
    rw [List.cons_append] at hx ⊢
    rw [findUnlessAhead?, hx]
    exact ih fun v hne hv => h v hne (hv.trans (List.suffix_cons x u))

theorem findUnlessAhead?_of_match {m : Match} (h : p.matchUnlessAhead? ahead s = some m) :
    p.findUnlessAhead? ahead s = some m := by
  cases s with
  | nil => exact h
  | cons x xs => rw [findUnlessAhead?, h]

/-- The search finds something exactly if the pattern can be read somewhere with something else than
`ahead` behind it. -/
theorem findUnlessAhead?_isSome_iff : (p.findUnlessAhead? ahead s).isSome = true ↔
    ∃ t r, t <:+ s ∧ p.Reads t r ∧ ahead.startsText r = false := by
  have hnone : p.findUnlessAhead? ahead s = none ↔
      ∀ t, t <:+ s → p.matchUnlessAhead? ahead t = none := by
    induction s with
    | nil => simp [findUnlessAhead?]
    | cons x xs ih =>
      simp only [List.suffix_cons_iff, forall_eq_or_imp, ← ih]
      rw [findUnlessAhead?]
      cases p.matchUnlessAhead? ahead (x :: xs) <;> simp
  rw [← not_iff_not, Bool.not_eq_true, Option.isSome_eq_false_iff, Option.isNone_iff_eq_none, hnone]
  simp only [matchUnlessAhead?_eq_none_iff]
  push Not
  simp only [ne_eq, Bool.not_eq_false]
  exact forall_congr' fun t => forall_comm

/-! ## Patterns that match in one way -/

/-- There is at most one way to match at a place. -/
def Single (p : Pattern) : Prop := ∀ k, (p.ways k).length ≤ 1

/-- Whatever way but the first is taken, a character of the class is left over. -/
def Trails (c : CharClass) (p : Pattern) : Prop :=
  ∀ k, ∀ m ∈ (p.ways k).tail, ∃ x r, c.contains x = true ∧ m.rest = x :: r

theorem single_nothing : Single nothing := fun k => by simp [ways]

theorem single_one (c : CharClass) : Single (one c) := by
  intro k
  rw [ways]
  split
  · simp
  · split <;> simp

theorem Single.ways_eq (hp : p.Single) (k : Cursor) : p.ways k = [] ∨ ∃ l, p.ways k = [l] := by
  rcases Nat.le_one_iff_eq_zero_or_eq_one.1 (hp k) with hzero | hone
  · exact Or.inl (List.length_eq_zero_iff.1 hzero)
  · exact Or.inr (List.length_eq_one_iff.1 hone)

theorem Single.andThen (hp : p.Single) (hq : q.Single) : (andThen p q).Single := by
  intro k
  rw [ways]
  rcases hp.ways_eq k with hnil | ⟨l, hl⟩
  · simp [hnil]
  · simpa [hl] using hq l

theorem single_exactly (w : String) : (exactly w).Single := by
  unfold exactly
  induction w.toList with
  | nil => exact single_nothing
  | cons x xs ih => exact (single_one _).andThen ih

/-- What cannot begin with a character that is left over is reached in one way only. -/
theorem Trails.andThen (hp : p.Trails c) (hq : q.Single)
    (hnot : ∀ x s r, c.contains x = true → ¬ q.Reads (x :: s) r) : (andThen p q).Single := by
  intro k
  have hlater := hp k
  rw [ways]
  cases hways : p.ways k with
  | nil => simp
  | cons l later =>
    rw [hways, List.tail_cons] at hlater
    have hnone : later.flatMap q.ways = [] := by
      rw [List.flatMap_eq_nil_iff]
      intro m hm
      obtain ⟨x, r, hx, hrest⟩ := hlater m hm
      rw [ways_eq_nil_iff, hrest]
      exact fun r' => hnot x r r' hx
    rw [List.flatMap_cons, hnone, List.append_nil]
    exact hq l

theorem Trails.group (i : Nat) (hp : p.Trails c) : (group i p).Trails c := by
  intro k m hm
  rw [ways, ← List.map_tail] at hm
  obtain ⟨l, hl, rfl⟩ := List.mem_map.1 hm
  exact hp k l hl

theorem trails_many (c : CharClass) : (many c).Trails c := by
  have hrests : ∀ s, ∀ r ∈ (c.restsGreedy s).tail, ∃ x t, c.contains x = true ∧ r = x :: t := by
    intro s
    induction s with
    | nil => simp [CharClass.restsGreedy]
    | cons x xs ih =>
      rw [CharClass.restsGreedy]
      split
      · next hx =>
        intro r hr
        have hne : c.restsGreedy xs ≠ [] :=
          List.ne_nil_of_mem (CharClass.mem_restsGreedy.2 (c.runs_self xs))
        rw [List.tail_append_of_ne_nil hne, List.mem_append, List.mem_singleton] at hr
        exact hr.elim (ih r) fun h => ⟨x, xs, hx, h⟩
      · simp
  intro k m hm
  rw [ways, ← List.map_tail] at hm
  obtain ⟨r, hr, rfl⟩ := List.mem_map.1 hm
  exact hrests k.rest r hr

theorem trails_oneOrMore (c : CharClass) : (oneOrMore c).Trails c := by
  intro k
  rw [oneOrMore, ways]
  rcases (single_one c).ways_eq k with hnil | ⟨l, hl⟩
  · simp [hnil]
  · simpa [hl] using trails_many c l

/-- Something that may be missing leaves at most one way if it cannot be read where the rest can. -/
theorem Single.optional_andThen (hboth : (Pattern.andThen p q).Single) (hq : q.Single)
    (hnot : ∀ s r t, q.Reads s r → ¬ p.Reads s t) : (Pattern.andThen (optional p) q).Single := by
  intro k
  have heq : (Pattern.andThen (optional p) q).ways k = (Pattern.andThen p q).ways k ++ q.ways k := by
    simp [optional, ways]
  rw [heq]
  by_cases hk : q.ways k = []
  · rw [hk, List.append_nil]
    exact hboth k
  · have hreads : ∃ r, q.Reads k.rest r := by simpa using mt ways_eq_nil_iff.2 hk
    obtain ⟨r, hr⟩ := hreads
    have hnone : p.ways k = [] := ways_eq_nil_iff.2 fun t => hnot k.rest r t hr
    rw [ways, hnone]
    exact hq k

/-! ## A word and its plural -/

/-- The ways to match at the beginning of a text: none, one that does not end in `s`, or one that does
with the one that stops in front of that letter behind it. -/
inductive PluralWays (s : List Char) : List Cursor → Prop
  | none : PluralWays s []
  | singular {t : List Char} {g : List (Nat × List Char × List Char)}
      (hlast : (Match.between s t).getLast? ≠ some 's') : PluralWays s [⟨t, g⟩]
  | plural {t : List Char} {g : List (Nat × List Char × List Char)}
      (hlast : (Match.between s t).getLast? = some 's') : PluralWays s [⟨t, g⟩, ⟨'s' :: t, g⟩]

/-- A word that may have a plural `s` and that cannot begin inside itself. -/
structure Plural (p : Pattern) : Prop where
  ways : ∀ s, PluralWays s (p.ways ⟨s, []⟩)
  advances : ∀ s r, p.Reads s r → r.length < s.length
  apart : ∀ u v s, u ≠ [] → v ≠ [] → p.Reads (u ++ v ++ s) s → ∀ r, ¬ p.Reads (v ++ s) r

/-- What is found first is found at the first place where the pattern can be read. -/
theorem exists_append_of_find? {m : Match} (h : p.find? s = some m) :
    ∃ u, s = u ++ m.start ∧ ∀ v, v ≠ [] → v <:+ u → ∀ r, ¬ p.Reads (v ++ m.start) r := by
  induction s with
  | nil =>
    obtain ⟨hstart, -⟩ := exists_of_find? h
    exact ⟨[], (List.suffix_nil.1 hstart).symm, fun v hne hv => absurd (List.suffix_nil.1 hv) hne⟩
  | cons x xs ih =>
    rw [find?] at h
    split at h
    · next m' hm =>
      cases h
      rw [matchAt?_eq] at hm
      obtain ⟨k, -, rfl⟩ := Option.map_eq_some_iff.1 hm
      exact ⟨[], rfl, fun v hne hv => absurd (List.suffix_nil.1 hv) hne⟩
    · next hnone =>
      obtain ⟨u, hu, hbefore⟩ := ih h
      refine ⟨x :: u, congrArg (x :: ·) hu, fun v hne hv => ?_⟩
      rcases List.suffix_cons_iff.1 hv with rfl | hv
      · rw [List.cons_append, ← hu]
        exact matchAt?_eq_none_iff.1 hnone
      · exact hbefore v hne hv

/-- A match is refused exactly if there is no other at its place that may be accepted; else the two have
their beginning and their groups in common. -/
theorem Plural.matchUnlessAhead?_eq (hp : p.Plural) {m : Match}
    (hm : (p.ways ⟨m.start, []⟩).head? = some ⟨m.stop, m.groups⟩) (ahead : Pattern) :
    (p.matchUnlessAhead? ahead m.start).map (fun n => (n.start, n.groups)) =
      if !ahead.startsText m.stop || (m.text.getLast? == some 's' && !ahead.startsText ('s' :: m.stop))
      then some (m.start, m.groups) else none := by
  have hways := hp.ways m.start
  rw [matchUnlessAhead?]
  generalize p.ways ⟨m.start, []⟩ = all at hm hways
  cases hways with
  | none => cases hm
  | singular hlast =>
    cases hm
    have hlast' : (m.text.getLast? == some 's') = false := by simpa [Match.text] using hlast
    rw [hlast']
    cases hstop : ahead.startsText m.stop <;> simp [hstop]
  | plural hlast =>
    cases hm
    have hlast' : (m.text.getLast? == some 's') = true := by simpa [Match.text] using hlast
    rw [hlast']
    cases hstop : ahead.startsText m.stop <;> cases hs : ahead.startsText ('s' :: m.stop) <;>
      simp [hstop, hs]

theorem findUnlessAhead?_of_find? (h : p.find? s = none) (ahead : Pattern) :
    p.findUnlessAhead? ahead s = none := by
  have hnot := find?_eq_none_iff.1 h
  rw [← Option.isNone_iff_eq_none, ← Option.isSome_eq_false_iff, ← Bool.not_eq_true,
    findUnlessAhead?_isSome_iff]
  rintro ⟨t, r, ht, hr, -⟩
  exact hnot t ht r hr

/-- In front of what is found nothing is read, so the search may begin there. -/
theorem findUnlessAhead?_start {m : Match} (h : p.find? s = some m) (ahead : Pattern) :
    p.findUnlessAhead? ahead s = p.findUnlessAhead? ahead m.start := by
  obtain ⟨u, hu, hbefore⟩ := exists_append_of_find? h
  conv_lhs => rw [hu]
  exact findUnlessAhead?_append fun v hne hv =>
    matchUnlessAhead?_eq_none_iff.2 fun r hr => absurd hr (hbefore v hne hv r)

/-- If a match is refused, the search may go on behind it: no other begins inside. -/
theorem Plural.findUnlessAhead?_stop (hp : p.Plural) {t : List Char} (hread : p.Reads s t)
    {ahead : Pattern} (hnone : p.matchUnlessAhead? ahead s = none) :
    p.findUnlessAhead? ahead s = p.findUnlessAhead? ahead t := by
  obtain ⟨x, rfl⟩ := hread.suffix
  refine findUnlessAhead?_append fun v hne hv => ?_
  obtain ⟨w, rfl⟩ := hv
  rcases eq_or_ne w [] with rfl | hwne
  · exact hnone
  · exact matchUnlessAhead?_eq_none_iff.2 fun r hr => absurd hr (hp.apart w v t hwne hne hread r)

/-- **Going from match to match finds the leftmost match that is not followed.** The match it gives may
end behind the plural letter where the other stops in front of it; the place and the groups are the
same. -/
theorem Plural.findUnlessFollowed?_eq (hp : p.Plural) (ahead : Pattern) (s : List Char) :
    (p.findUnlessFollowed? ahead s).map (fun m => (m.start, m.groups)) =
      (p.findUnlessAhead? ahead s).map fun m => (m.start, m.groups) := by
  induction hlen : s.length using Nat.strong_induction_on generalizing s with
  | _ n ih =>
    subst hlen
    rw [findUnlessFollowed?, findAll]
    cases hfind : p.find? s with
    | none =>
      rw [findUnlessAhead?_of_find? hfind]
      rfl
    | some m =>
      obtain ⟨hstart, hways⟩ := exists_of_find? hfind
      have hread : p.Reads m.start m.stop := reads_of_mem_ways (List.mem_of_head? hways)
      have hshorter : m.stop.length < s.length :=
        (hp.advances _ _ hread).trans_le hstart.length_le
      have hmatch := hp.matchUnlessAhead?_eq hways ahead
      simp only [if_pos hshorter, List.find?_cons, findUnlessAhead?_start hfind ahead]
      split at hmatch
      · next haccept =>
        obtain ⟨n, hn, heq⟩ := Option.map_eq_some_iff.1 hmatch
        rw [findUnlessAhead?_of_match hn, haccept]
        exact congrArg some heq.symm
      · next hrefuse =>
        rw [Bool.not_eq_true] at hrefuse
        rw [hp.findUnlessAhead?_stop hread (Option.map_eq_none_iff.1 hmatch),
          ← ih _ hshorter m.stop rfl, hrefuse]
        rfl

end Pattern

end Floorplan
