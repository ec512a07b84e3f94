import Floorplan.Pattern.Search
import Mathlib.Data.List.Infix

set_option autoImplicit false

/-! # What a pattern can read

The order of the ways to match does not matter for whether a pattern matches at all. `Pattern.Reads`
says which texts may be left when a pattern has been read, by recursion on the pattern; a pattern matches
at a place exactly when it reads something there (`Pattern.ways_eq_nil_iff`), and it is found in a text
exactly when it reads something at one of its places (`Pattern.find?_eq_none_iff`). -/

namespace Floorplan

/-! ## Repeated characters -/

namespace CharClass

variable {c : CharClass} {s r : List Char}

/-- What may be left after a run of characters of the class. -/
def Runs (c : CharClass) (s r : List Char) : Prop := ∃ u, (∀ x ∈ u, c.contains x = true) ∧ s = u ++ r

theorem runs_self (c : CharClass) (s : List Char) : c.Runs s s := ⟨[], by simp, rfl⟩

theorem runs_nil : c.Runs [] r ↔ r = [] := by
  constructor
  · rintro ⟨u, -, h⟩
    exact (List.append_eq_nil_iff.1 h.symm).2
  · rintro rfl
    exact c.runs_self []

theorem runs_cons {x : Char} {xs : List Char} :
    c.Runs (x :: xs) r ↔ r = x :: xs ∨ c.contains x = true ∧ c.Runs xs r := by
  constructor
  · rintro ⟨u, hu, h⟩
    cases u with
    | nil => exact Or.inl h.symm
    | cons y u =>
      obtain ⟨rfl, rfl⟩ := List.cons.inj h
      obtain ⟨hx, hu⟩ := List.forall_mem_cons.1 hu
      exact Or.inr ⟨hx, u, hu, rfl⟩
  · rintro (rfl | ⟨hx, u, hu, rfl⟩)
    · exact c.runs_self _
    · exact ⟨x :: u, List.forall_mem_cons.2 ⟨hx, hu⟩, rfl⟩

theorem mem_restsGreedy : r ∈ c.restsGreedy s ↔ c.Runs s r := by
  induction s with
  | nil => rw [restsGreedy, List.mem_singleton, runs_nil]
  | cons x xs ih =>
    rw [restsGreedy, runs_cons, ← ih]
    by_cases hx : c.contains x = true
    · rw [if_pos hx, List.mem_append, List.mem_singleton, or_comm]
      simp [hx]
    · rw [if_neg hx, List.mem_singleton]
      simp [hx]

theorem mem_restsReluctant : r ∈ c.restsReluctant s ↔ c.Runs s r := by
  induction s with
  | nil => rw [restsReluctant, List.mem_singleton, runs_nil]
  | cons x xs ih =>
    rw [restsReluctant, runs_cons, ← ih, List.mem_cons]
    by_cases hx : c.contains x = true <;> simp [hx]

end CharClass

namespace Pattern

/-! ## Reading -/

/-- The text may begin with the pattern, and then the rest is left. -/
def Reads : Pattern → List Char → List Char → Prop
  | nothing, s, r => r = s
  | atEnd, s, r => s = [] ∧ r = s
  | one c, s, r => ∃ x, c.contains x = true ∧ s = x :: r
  | many c, s, r => c.Runs s r
  | few c, s, r => c.Runs s r
  | andThen p q, s, r => ∃ t, p.Reads s t ∧ q.Reads t r
  | orElse p q, s, r => p.Reads s r ∨ q.Reads s r
  | group _ p, s, r => p.Reads s r

variable {p q : Pattern} {k m : Cursor} {s r t z : List Char}

/-- What is left after the ways to match is what may be left after reading. -/
theorem exists_ways_iff (p : Pattern) (k : Cursor) (r : List Char) :
    (∃ m ∈ p.ways k, m.rest = r) ↔ p.Reads k.rest r := by
  induction p generalizing k r with
  | nothing =>
    simp only [ways, Reads, List.mem_singleton, exists_eq_left]
    exact eq_comm
  | atEnd =>
    cases h : k.rest with
    | nil => simp [ways, Reads, h, eq_comm]
    | cons x xs => simp [ways, Reads, h]
  | one c =>
    cases h : k.rest with
    | nil => simp [ways, Reads, h]
    | cons x xs =>
      by_cases hx : c.contains x = true
      · simp [ways, Reads, h, hx]
      · simp [ways, Reads, h, hx]
  | many c => simp [ways, Reads, CharClass.mem_restsGreedy]
  | few c => simp [ways, Reads, CharClass.mem_restsReluctant]
  | andThen p q ihp ihq =>
    simp only [ways, Reads, List.mem_flatMap]
    constructor
    · rintro ⟨m, ⟨l, hl, hm⟩, hr⟩
      exact ⟨l.rest, (ihp k l.rest).1 ⟨l, hl, rfl⟩, (ihq l r).1 ⟨m, hm, hr⟩⟩
    · rintro ⟨t, ht, hr⟩
      obtain ⟨l, hl, rfl⟩ := (ihp k t).2 ht
      obtain ⟨m, hm, hmr⟩ := (ihq l r).2 hr
      exact ⟨m, ⟨l, hl, hm⟩, hmr⟩
  | orElse p q ihp ihq =>
    simp only [ways, Reads, List.mem_append, ← ihp, ← ihq, or_and_right, exists_or]
  | group i p ih =>
    simp only [ways, Reads, ← ih, List.mem_map, exists_exists_and_eq_and]

theorem reads_of_mem_ways (h : m ∈ p.ways k) : p.Reads k.rest m.rest :=
  (exists_ways_iff p k m.rest).1 ⟨m, h, rfl⟩

theorem ways_eq_nil_iff : p.ways k = [] ↔ ∀ r, ¬ p.Reads k.rest r := by
  rw [List.eq_nil_iff_forall_not_mem]
  constructor
  · intro h r hr
    obtain ⟨m, hm, -⟩ := (exists_ways_iff p k r).2 hr
    exact h m hm
  · exact fun h m hm => h m.rest (reads_of_mem_ways hm)

theorem startsText_iff : p.startsText s = true ↔ ∃ r, p.Reads s r := by
  rw [startsText, matchAt?_eq, Option.isSome_map, List.isSome_head?, ← not_iff_not]
  simpa using ways_eq_nil_iff (p := p) (k := ⟨s, []⟩)

theorem matchAt?_eq_none_iff : p.matchAt? s = none ↔ ∀ r, ¬ p.Reads s r := by
  rw [← Option.not_isSome_iff_eq_none, ← startsText, startsText_iff, not_exists]

/-- Nothing is found if the pattern reads at no place of the text. -/
theorem find?_eq_none_iff : p.find? s = none ↔ ∀ t, t <:+ s → ∀ r, ¬ p.Reads t r := by
  induction s with
  | nil =>
    rw [find?, matchAt?_eq_none_iff]
    simp
  | cons x xs ih =>
    have hfind : p.find? (x :: xs) = none ↔ p.matchAt? (x :: xs) = none ∧ p.find? xs = none := by
      rw [find?]
      cases p.matchAt? (x :: xs) <;> simp
    rw [hfind, matchAt?_eq_none_iff, ih]
    simp only [List.suffix_cons_iff, forall_eq_or_imp]

theorem find?_ne_none_iff : p.find? s ≠ none ↔ ∃ t r, t <:+ s ∧ p.Reads t r := by
  rw [ne_eq, find?_eq_none_iff]
  push Not
  exact ⟨fun ⟨t, ht, r, hr⟩ => ⟨t, r, ht, hr⟩, fun ⟨t, r, ht, hr⟩ => ⟨t, ht, r, hr⟩⟩

/-- What is found is the first way to match at some place. -/
theorem exists_of_find? {m : Match} (h : p.find? s = some m) :
    m.start <:+ s ∧
      (p.ways ⟨m.start, []⟩).head? = some ⟨m.stop, m.groups⟩ := by
  have hmatch : ∀ {t : List Char}, p.matchAt? t = some m →
      m.start = t ∧ (p.ways ⟨t, []⟩).head? = some ⟨m.stop, m.groups⟩ := by
    intro t ht
    rw [matchAt?_eq] at ht
    obtain ⟨k, hk, rfl⟩ := Option.map_eq_some_iff.1 ht
    exact ⟨rfl, hk⟩
  induction s with
  | nil =>
    obtain ⟨hstart, hways⟩ := hmatch h
    rw [hstart]
    exact ⟨List.suffix_rfl, hways⟩
  | cons x xs ih =>
    rw [find?] at h
    split at h
    · rename_i m' hm
      cases h
      obtain ⟨hstart, hways⟩ := hmatch hm
      rw [hstart]
      exact ⟨List.suffix_rfl, hways⟩
    · obtain ⟨hsuffix, hways⟩ := ih h
      exact ⟨hsuffix.trans (List.suffix_cons x xs), hways⟩

/-! ## What is left -/

theorem Reads.suffix (h : p.Reads s r) : r <:+ s := by
  induction p generalizing s r with
  | nothing => exact h ▸ List.suffix_rfl
  | atEnd => exact h.2 ▸ List.suffix_rfl
  | one c =>
    obtain ⟨x, -, rfl⟩ := h
    exact List.suffix_cons x r
  | many c =>
    obtain ⟨u, -, rfl⟩ := h
    exact List.suffix_append u r
  | few c =>
    obtain ⟨u, -, rfl⟩ := h
    exact List.suffix_append u r
  | andThen p q ihp ihq =>
    obtain ⟨t, hp, hq⟩ := h
    exact (ihq hq).trans (ihp hp)
  | orElse p q ihp ihq => exact h.elim ihp ihq
  | group i p ih => exact ih h

/-- Does the pattern not look for the end of the text? -/
def isOpen : Pattern → Bool
  | atEnd => false
  | andThen p q | orElse p q => p.isOpen && q.isOpen
  | group _ p => p.isOpen
  | _ => true

/-- What can be read can be read with more text behind it. -/
theorem Reads.append (hopen : p.isOpen = true) (h : p.Reads s r) (z : List Char) :
    p.Reads (s ++ z) (r ++ z) := by
  induction p generalizing s r with
  | nothing => exact congrArg (· ++ z) h
  | atEnd => cases hopen
  | one c =>
    obtain ⟨x, hx, rfl⟩ := h
    exact ⟨x, hx, rfl⟩
  | many c =>
    obtain ⟨u, hu, rfl⟩ := h
    exact ⟨u, hu, List.append_assoc ..⟩
  | few c =>
    obtain ⟨u, hu, rfl⟩ := h
    exact ⟨u, hu, List.append_assoc ..⟩
  | andThen p q ihp ihq =>
    obtain ⟨hp, hq⟩ := Bool.and_eq_true_iff.1 hopen
    obtain ⟨t, hread, hrest⟩ := h
    exact ⟨t ++ z, ihp hp hread, ihq hq hrest⟩
  | orElse p q ihp ihq =>
    obtain ⟨hp, hq⟩ := Bool.and_eq_true_iff.1 hopen
    exact h.imp (ihp hp) (ihq hq)
  | group i p ih => exact ih hopen h

/-! ## The patterns that phrases are built from -/

theorem reads_word {w : String} :
    (word w).Reads s r ↔ ∃ u, u.map foldLetter = w.toList.map foldLetter ∧ s = u ++ r := by
  unfold word
  induction w.toList generalizing s with
  | nil => simp [Reads, eq_comm]
  | cons x xs ih =>
    simp only [List.foldr_cons, Reads, ih, CharClass.contains, decide_eq_true_eq, List.map_cons]
    constructor
    · rintro ⟨_, ⟨y, hy, rfl⟩, u, hu, rfl⟩
      exact ⟨y :: u, by simp [hy, hu], rfl⟩
    · rintro ⟨u, hu, rfl⟩
      obtain ⟨y, v, rfl, hy, hv⟩ := List.map_eq_cons_iff.1 hu
      exact ⟨v ++ r, ⟨y, hy, rfl⟩, v, hv, rfl⟩

theorem reads_exactly {w : String} : (exactly w).Reads s r ↔ s = w.toList ++ r := by
  unfold exactly
  induction w.toList generalizing s with
  | nil => exact eq_comm
  | cons x xs ih => simp [Reads, ih, CharClass.contains]

theorem reads_sequence_append {ps qs : List Pattern} :
    (sequence (ps ++ qs)).Reads s r ↔ ∃ t, (sequence ps).Reads s t ∧ (sequence qs).Reads t r := by
  induction ps generalizing s with
  | nil => exact ⟨fun h => ⟨s, rfl, h⟩, fun ⟨_, rfl, h⟩ => h⟩
  | cons p ps ih =>
    constructor
    · rintro ⟨t, hp, h⟩
      obtain ⟨u, hps, hqs⟩ := ih.1 h
      exact ⟨u, ⟨t, hp, hps⟩, hqs⟩
    · rintro ⟨u, ⟨t, hp, hps⟩, hqs⟩
      exact ⟨t, hp, ih.2 ⟨u, hps, hqs⟩⟩

theorem mem_ways_sequence_append {ps qs : List Pattern} :
    m ∈ (sequence (ps ++ qs)).ways k ↔ ∃ l ∈ (sequence ps).ways k, m ∈ (sequence qs).ways l := by
  induction ps generalizing k with
  | nil => simp [sequence, ways]
  | cons p ps ih =>
    have hcons : ∀ rs, (sequence (p :: rs)).ways k = (p.ways k).flatMap (sequence rs).ways :=
      fun _ => rfl
    rw [List.cons_append, hcons, hcons, List.mem_flatMap]
    simp only [ih, List.mem_flatMap]
    constructor
    · rintro ⟨l, hl, l', hl', hm⟩
      exact ⟨l', ⟨l, hl, hl'⟩, hm⟩
    · rintro ⟨l', ⟨l, hl, hl'⟩, hm⟩
      exact ⟨l, hl, l', hl', hm⟩

theorem reads_choice {ps : List Pattern} (hne : ps ≠ []) :
    (choice ps).Reads s r ↔ ∃ p ∈ ps, p.Reads s r := by
  induction ps with
  | nil => exact absurd rfl hne
  | cons p ps ih =>
    cases ps with
    | nil => simp [choice]
    | cons q ps =>
      rw [choice, Reads, ih (List.cons_ne_nil q ps)]
      simp

theorem reads_oneOrMore {c : CharClass} : (oneOrMore c).Reads s r ↔
    ∃ x u, (∀ y ∈ x :: u, c.contains y = true) ∧ s = x :: u ++ r := by
  simp only [oneOrMore, Reads, CharClass.Runs, List.forall_mem_cons]
  constructor
  · rintro ⟨_, ⟨x, hx, rfl⟩, u, hu, rfl⟩
    exact ⟨x, u, ⟨hx, hu⟩, rfl⟩
  · rintro ⟨x, u, ⟨hx, hu⟩, rfl⟩
    exact ⟨u ++ r, ⟨x, hx, rfl⟩, u, hu, rfl⟩

theorem reads_gap : gap.Reads s r ↔
    ∃ x u, (∀ y ∈ x :: u, Text.isBlank y = true) ∧ s = x :: u ++ r := reads_oneOrMore

theorem reads_count {i : Nat} : (count i).Reads s r ↔
    ∃ x u, (∀ y ∈ x :: u, Text.isDigit y = true) ∧ s = x :: u ++ r := reads_oneOrMore

/-- All that is read between two words is the white space between them. -/
theorem eq_of_reads_gap {x : Char} (hs : ∀ y ∈ s.head?, Text.isBlank y = false)
    (h : gap.Reads (x :: s) r) : r = s := by
  obtain ⟨y, u, hblank, heq⟩ := reads_gap.1 h
  obtain ⟨-, rfl⟩ := List.cons.inj heq
  cases u with
  | nil => rfl
  | cons z u =>
    have hz := hblank z (by simp)
    rw [hs z rfl] at hz
    cases hz

/-- A text that begins with a word is read up to its end. -/
theorem eq_of_reads_word {w : String} (h : (word w).Reads (w.toList ++ s) r) : r = s := by
  obtain ⟨u, hu, heq⟩ := reads_word.1 h
  have hlength : u.length = w.toList.length := by
    simpa only [List.length_map] using congrArg List.length hu
  exact (List.append_inj heq hlength.symm).2.symm

/-- No word is read where a text begins with another letter. -/
theorem not_reads_words {ws : List String} {x : Char} (hne : ws ≠ [])
    (h : ∀ w ∈ ws, (w.toList.map foldLetter).head? ∉ [none, some (foldLetter x)]) :
    ¬ (choice (ws.map word)).Reads (x :: s) r := by
  intro hread
  obtain ⟨_, hp, hread⟩ := (reads_choice (by simpa using hne)).1 hread
  obtain ⟨w, hw, rfl⟩ := List.mem_map.1 hp
  obtain ⟨u, hu, heq⟩ := reads_word.1 hread
  have hhead := h w hw
  rw [← hu] at hhead
  cases u with
  | nil => simp at hhead
  | cons y u =>
    obtain ⟨rfl, -⟩ := List.cons.inj heq
    simp at hhead

/-- A number in front of white space is read up to its end. -/
theorem eq_of_reads_count {i : Nat} {n : List Char} {x : Char}
    (hn : ∀ y ∈ n, Text.isBlank y = false) (hx : Text.isDigit x = false)
    (h : (count i).Reads (n ++ x :: s) r) (hgap : gap.Reads r t) : r = x :: s := by
  obtain ⟨y, u, hdigits, heq⟩ := reads_count.1 h
  obtain ⟨z, v, hblank, rfl⟩ := reads_gap.1 hgap
  rcases List.append_eq_append_iff.1 heq with ⟨c, hu, hrest⟩ | ⟨c, hu, hrest⟩
  · -- The digits go past the number.
    cases c with
    | nil => exact hrest.symm
    | cons d c =>
      obtain ⟨rfl, -⟩ := List.cons.inj hrest
      have hdigit := hdigits x (hu ▸ List.mem_append_right n List.mem_cons_self)
      rw [hx] at hdigit
      cases hdigit
  · -- The number goes on behind the digits.
    cases c with
    | nil => exact hrest
    | cons d c =>
      obtain ⟨rfl, -⟩ := List.cons.inj hrest
      have hz := hblank z List.mem_cons_self
      rw [hn z (hu ▸ List.mem_append_right _ List.mem_cons_self)] at hz
      cases hz

end Pattern

end Floorplan
