import Floorplan.Json.Numeral
import Mathlib.Tactic.IntervalCases

set_option autoImplicit false

/-! # Numerals are read as they are written

The text of a numeral reads back to the numeral, whatever stands behind it, as long as that does not go
on with the number. This needs the numeral to be one that a reader accepts: its digits are digits, and
no zero stands before other digits of its whole part. Natural numbers and coordinates have such
numerals; for a coordinate this rests on its shortest decimal not being zero (`Binary64.onGrid?_pos`).
-/

namespace Floorplan

/-! ## The digits of a number -/

/-- The digits of a number are those of its tenth part and the last one. -/
theorem digitsOf_eq (n : Nat) :
    digitsOf n = if n < 10 then [n] else digitsOf (n / 10) ++ [n % 10] := by
  have hdigit : ∀ d < 10, (Nat.digitChar d).toNat - '0'.toNat = d := by decide
  unfold digitsOf
  split
  · rename_i hlt
    rw [Nat.toDigits_of_lt_base hlt, List.map_singleton, hdigit n hlt]
  · rename_i hge
    rw [Nat.toDigits_of_base_le (by decide) (by omega), List.map_append, List.map_singleton,
      hdigit _ (Nat.mod_lt n (by decide))]

theorem lt_ten_of_mem_digitsOf {n d : Nat} (h : d ∈ digitsOf n) : d < 10 := by
  induction n using Nat.strong_induction_on with
  | _ n ih =>
    rw [digitsOf_eq] at h
    split at h
    · rw [List.mem_singleton] at h
      omega
    · rcases List.mem_append.1 h with h | h
      · exact ih (n / 10) (by omega) h
      · rw [List.mem_singleton] at h
        omega

theorem digitsOf_ne_nil (n : Nat) : digitsOf n ≠ [] := by
  rw [digitsOf_eq]
  split <;> simp

/-- The first digit of a positive number is not zero. -/
theorem head_digitsOf {n : Nat} (h : 0 < n) : ∃ d ds, digitsOf n = d :: ds ∧ d ≠ 0 := by
  induction n using Nat.strong_induction_on with
  | _ n ih =>
    rw [digitsOf_eq]
    split
    · exact ⟨n, [], rfl, by omega⟩
    · obtain ⟨d, ds, hds, hd⟩ := ih (n / 10) (by omega) (by omega)
      rw [hds]
      exact ⟨d, ds ++ [n % 10], rfl, hd⟩

namespace Json.Numeral

/-! ## Numerals that a reader accepts -/

/-- These are decimal digits. -/
def Digits (ds : List Nat) : Prop := ∀ d ∈ ds, d < 10

/-- The digits begin like those of a whole number: with a zero alone, or with another digit. -/
def Leads (ds : List Nat) : Prop := ds = [0] ∨ ∃ d rest, ds = d :: rest ∧ d ≠ 0

/-- The numeral is one that a reader accepts. -/
structure WellFormed (n : Numeral) : Prop where
  whole : Digits n.whole
  leads : Leads n.whole
  fraction : Digits n.fraction
  exponent : ∀ e, n.exponent = some e → e.2 ≠ [] ∧ Digits e.2

theorem WellFormed.whole_eq_cons {n : Numeral} (h : n.WellFormed) :
    ∃ d ds, n.whole = d :: ds ∧ d < 10 := by
  have hfirst : ∃ d ds, n.whole = d :: ds := by
    rcases h.leads with hzero | ⟨d, ds, hds, -⟩
    · exact ⟨0, [], hzero⟩
    · exact ⟨d, ds, hds⟩
  obtain ⟨d, ds, hds⟩ := hfirst
  exact ⟨d, ds, hds, h.whole d (by rw [hds]; exact List.mem_cons_self)⟩

/-- What stands behind a number does not go on with it. -/
def Ends (s : List Char) : Prop :=
  ∀ c ∈ s.head?, Text.digitValue? c = none ∧ c ≠ '.' ∧ c ≠ 'e' ∧ c ≠ 'E'

/-- The text does not begin with a digit. -/
def NoDigit (s : List Char) : Prop := ∀ c ∈ s.head?, Text.digitValue? c = none

theorem Ends.noDigit {s : List Char} (h : Ends s) : NoDigit s := fun c hc => (h c hc).1

/-! ## Reading digits -/

theorem digitValue?_digitChar {d : Nat} (h : d < 10) :
    Text.digitValue? (digitChar d) = some d := by
  interval_cases d <;> decide

theorem digitChar_ne {d : Nat} (h : d < 10) : digitChar d ≠ '-' ∧ (d ≠ 0 → digitChar d ≠ '0') := by
  interval_cases d <;> decide

theorem readDigits_of_noDigit {s : List Char} (h : NoDigit s) : readDigits s = ([], s) := by
  cases s with
  | nil => rfl
  | cons c s => simp only [readDigits, h c rfl]

theorem readDigits_append {ds : List Nat} {s : List Char} (hds : Digits ds) (hs : NoDigit s) :
    readDigits (ds.map digitChar ++ s) = (ds, s) := by
  induction ds with
  | nil => exact readDigits_of_noDigit hs
  | cons d ds ih =>
    obtain ⟨hd, hds⟩ := List.forall_mem_cons.1 hds
    simp only [List.map_cons, List.cons_append, readDigits, digitValue?_digitChar hd, ih hds]

theorem readWhole_append {ds : List Nat} {s : List Char} (hds : Digits ds) (hleads : Leads ds)
    (hs : NoDigit s) : readWhole (ds.map digitChar ++ s) = some (ds, s) := by
  rcases hleads with rfl | ⟨d, rest, rfl, hd⟩
  · rfl
  · have hne := (digitChar_ne (hds d List.mem_cons_self)).2 hd
    have hread := readDigits_append hds hs
    rw [List.map_cons, List.cons_append] at hread ⊢
    unfold readWhole
    split
    · rename_i heq
      exact absurd (List.cons.inj heq).1 hne
    · rw [hread]

/-! ## Reading the parts behind the whole -/

/-- The point and the digits after it. -/
def fractionChars (ds : List Nat) : List Char :=
  if ds.isEmpty then [] else '.' :: ds.map digitChar

/-- The exponent with its letter. -/
def exponentChars : Option (Bool × List Nat) → List Char
  | none => []
  | some (down, ds) => 'e' :: (if down then '-' else '+') :: ds.map digitChar

theorem chars_eq (n : Numeral) :
    n.chars = (if n.negative then ['-'] else []) ++ n.whole.map digitChar ++
      fractionChars n.fraction ++ exponentChars n.exponent := by
  cases n with
  | mk negative whole fraction exponent =>
    cases exponent <;> rfl

theorem noDigit_exponentChars {s : List Char} (e : Option (Bool × List Nat)) (hs : Ends s) :
    NoDigit (exponentChars e ++ s) := by
  cases e with
  | none => exact hs.noDigit
  | some e =>
    intro c hc
    cases hc
    decide

theorem readFraction_append {ds : List Nat} {s : List Char} (hds : Digits ds) (hs : NoDigit s)
    (hpoint : s.head? ≠ some '.') : readFraction (fractionChars ds ++ s) = some (ds, s) := by
  cases ds with
  | nil =>
    cases s with
    | nil => rfl
    | cons c s =>
      have hc : c ≠ '.' := fun h => hpoint (by rw [h]; rfl)
      simp only [fractionChars, List.isEmpty_nil, if_true, List.nil_append]
      unfold readFraction
      split
      · rename_i heq
        exact absurd (List.cons.inj heq).1 hc
      · rfl
  | cons d ds =>
    have hread := readDigits_append hds hs
    simp only [fractionChars, List.isEmpty_cons, Bool.false_eq_true, if_false, List.cons_append,
      readFraction, hread]

theorem readExponent_append {e : Option (Bool × List Nat)} {s : List Char}
    (he : ∀ x, e = some x → x.2 ≠ [] ∧ Digits x.2) (hs : Ends s) :
    readExponent (exponentChars e ++ s) = some (e, s) := by
  cases e with
  | none =>
    cases s with
    | nil => rfl
    | cons c s =>
      obtain ⟨-, -, hlower, hupper⟩ := hs c rfl
      simp only [exponentChars, List.nil_append]
      unfold readExponent
      split
      · rename_i heq
        exact absurd (List.cons.inj heq).1 hlower
      · rename_i heq
        exact absurd (List.cons.inj heq).1 hupper
      · rfl
  | some e =>
    obtain ⟨down, ds⟩ := e
    obtain ⟨hne, hds⟩ := he (down, ds) rfl
    have hread := readDigits_append hds hs.noDigit
    cases ds with
    | nil => exact absurd rfl hne
    | cons d ds =>
      rw [List.map_cons, List.cons_append] at hread
      cases down <;> simp [exponentChars, readExponent, readPower, hread]

/-- **A numeral reads back**, whatever stands behind it. -/
theorem read?_chars {n : Numeral} {s : List Char} (h : n.WellFormed) (hs : Ends s) :
    read? (n.chars ++ s) = some (n, s) := by
  have hexponent := noDigit_exponentChars n.exponent hs
  have hunsigned : readUnsigned n.negative (n.whole.map digitChar ++
      (fractionChars n.fraction ++ (exponentChars n.exponent ++ s))) = some (n, s) := by
    have hfraction : NoDigit (fractionChars n.fraction ++ (exponentChars n.exponent ++ s)) := by
      cases n.fraction with
      | nil => exact hexponent
      | cons d ds =>
        intro c hc
        cases hc
        decide
    have hpoint : (exponentChars n.exponent ++ s).head? ≠ some '.' := by
      cases n.exponent with
      | none => exact fun hc => (hs '.' hc).2.1 rfl
      | some e => exact fun hc => nomatch hc
    simp only [readUnsigned, readWhole_append h.whole h.leads hfraction,
      readFraction_append h.fraction hexponent hpoint, readExponent_append h.exponent hs,
      Option.bind_eq_bind, Option.bind_some]
    rfl
  rw [chars_eq]
  cases hsign : n.negative with
  | true =>
    rw [hsign] at hunsigned
    simpa [read?, List.append_assoc] using hunsigned
  | false =>
    rw [hsign] at hunsigned
    obtain ⟨d, ds, hds, hd⟩ := h.whole_eq_cons
    have hne := (digitChar_ne hd).1
    simp only [hds, List.map_cons, List.cons_append, Bool.false_eq_true, if_false, List.nil_append,
      List.append_assoc] at hunsigned ⊢
    unfold read?
    split
    · rename_i heq
      exact absurd (List.cons.inj heq).1 hne
    · exact hunsigned

/-! ## Natural numbers -/

theorem wellFormed_ofNat (n : Nat) : (ofNat n).WellFormed := by
  refine ⟨fun d hd => lt_ten_of_mem_digitsOf hd, ?_, by simp [Digits, ofNat], by simp [ofNat]⟩
  rcases Nat.eq_zero_or_pos n with rfl | hpos
  · exact Or.inl rfl
  · exact Or.inr (head_digitsOf hpos)

theorem valueOf_digitsOf (n : Nat) : valueOf (digitsOf n) = n := by
  induction n using Nat.strong_induction_on with
  | _ n ih =>
    rw [digitsOf_eq]
    split
    · simp [valueOf]
    · have htenth := ih (n / 10) (by omega)
      rw [valueOf] at htenth ⊢
      rw [List.foldl_append, htenth]
      simp only [List.foldl_cons, List.foldl_nil]
      omega

/-- **A word reads back.** -/
theorem toNat?_ofNat {n : Nat} (h : n < wordLimit) : (ofNat n).toNat? = some n := by
  have hvalue : valueOf (ofNat n).whole = n := valueOf_digitsOf n
  have hwhole : (ofNat n).isWhole = true := rfl
  rw [toNat?, hvalue, hwhole, decide_eq_true h]
  rfl

/-- What is read as a natural number is a word. -/
theorem lt_wordLimit_of_toNat? {m : Numeral} {n : Nat} (h : m.toNat? = some n) : n < wordLimit := by
  unfold toNat? at h
  split at h
  · rename_i hvalid
    obtain rfl := Option.some.inj h
    simp only [Bool.and_eq_true, decide_eq_true_eq] at hvalid
    exact hvalid.2
  · cases h

end Json.Numeral

/-! ## Coordinates -/

namespace Binary64

/-- What reads back to a number other than zero lies above zero. -/
theorem interval_pos {x : Binary64} (hx : x.isZero = false) : 0 < x.interval.1 := by
  have hsignificand : 1 ≤ x.significand := by
    simp only [isZero, decide_eq_false_iff_not] at hx
    omega
  have hscale : 0 < Nat.pow 2 x.scale := Nat.pow_pos (by decide)
  have hvalue : 4 * Nat.pow 2 x.scale ≤ 4 * x.magnitude := by
    have := Nat.mul_le_mul_right (Nat.pow 2 x.scale) hsignificand
    rw [magnitude]
    omega
  simp only [interval]
  split <;> omega

/-- No decimal that reads back to a number other than zero is zero. -/
theorem onGrid?_pos {x : Binary64} {k : Int} {n : Nat} (hx : x.isZero = false)
    (h : x.onGrid? k = some n) : 0 < n := by
  have hup : 0 < Nat.pow 10 (-k).toNat := Nat.pow_pos (by decide)
  have hlow : 0 < x.interval.1 * Nat.pow 10 (-k).toNat := Nat.mul_pos (interval_pos hx) hup
  simp only [onGrid?] at h
  generalize x.interval.2.1 * Nat.pow 10 (-k).toNat
    / (quartersPerOne * Nat.pow 10 k.toNat) = q at h
  rcases Nat.eq_zero_or_pos q with rfl | hq
  · -- Zero lies outside of the interval, so that only the decimal after it can be taken.
    have houtside : (if x.significand % 2 = 0 then
        decide (x.interval.1 * Nat.pow 10 (-k).toNat
          ≤ 0 * (quartersPerOne * Nat.pow 10 k.toNat)) &&
        decide (0 * (quartersPerOne * Nat.pow 10 k.toNat)
          ≤ x.interval.2.2 * Nat.pow 10 (-k).toNat)
      else
        decide (x.interval.1 * Nat.pow 10 (-k).toNat
          < 0 * (quartersPerOne * Nat.pow 10 k.toNat)) &&
        decide (0 * (quartersPerOne * Nat.pow 10 k.toNat)
          < x.interval.2.2 * Nat.pow 10 (-k).toNat)) = false := by
      rw [Nat.zero_mul, decide_eq_false (by omega), decide_eq_false (Nat.not_lt_zero _)]
      simp
    rw [houtside] at h
    split at h
    · rename_i hfalse _
      cases hfalse
    · rename_i hfalse _
      cases hfalse
    · cases h
      decide
    · cases h
  · repeat' split at h
    all_goals
      first
      | cases h
        omega
      | cases h

theorem head_dropZeros {d : Nat} (hd : d ≠ 0) (ds : List Nat) :
    ∃ rest, dropZeros (d :: ds) = d :: rest := by
  have hlast : ∃ front, (ds.reverse ++ [d]).dropWhile (· = 0) = front ++ [d] := by
    induction ds.reverse with
    | nil => exact ⟨[], by simp [hd]⟩
    | cons e es ih =>
      obtain ⟨front, hfront⟩ := ih
      rw [List.cons_append, List.dropWhile_cons]
      split
      · exact ⟨front, hfront⟩
      · exact ⟨e :: es, rfl⟩
  obtain ⟨front, hfront⟩ := hlast
  exact ⟨front.reverse, by rw [dropZeros, List.reverse_cons, hfront, List.reverse_append]; rfl⟩

theorem mem_of_mem_dropZeros {d : Nat} {ds : List Nat} (h : d ∈ dropZeros ds) : d ∈ ds := by
  rw [dropZeros, List.mem_reverse] at h
  exact List.mem_reverse.1 (List.dropWhile_subset _ h)

/-- The shortest decimal begins with a digit other than zero, unless it has none. -/
theorem shortestFrom_leads {x : Binary64} (hx : x.isZero = false) (tries count : Nat) :
    x.shortestFrom tries count = ⟨[], 0⟩ ∨
      (∃ d rest, (x.shortestFrom tries count).digits = d :: rest ∧ d ≠ 0) ∧
        Json.Numeral.Digits (x.shortestFrom tries count).digits := by
  induction tries generalizing count with
  | zero => exact Or.inl rfl
  | succ tries ih =>
    simp only [shortestFrom]
    split
    · rename_i n hn
      obtain ⟨d, ds, hds, hd⟩ := head_digitsOf (onGrid?_pos hx hn)
      obtain ⟨rest, hrest⟩ := head_dropZeros hd ds
      refine Or.inr ⟨⟨d, rest, by rw [hds, hrest], hd⟩, fun e he => ?_⟩
      exact lt_ten_of_mem_digitsOf (mem_of_mem_dropZeros he)
    · exact ih (count + 1)

end Binary64

namespace Json.Numeral

theorem wellFormed_ofDecimal (negative : Bool) {d : Decimal}
    (h : d = ⟨[], 0⟩ ∨ (∃ e rest, d.digits = e :: rest ∧ e ≠ 0) ∧ Digits d.digits) :
    (ofDecimal negative d).WellFormed := by
  have hzeros : ∀ n, Digits (List.replicate n 0) := by
    intro n d hd
    rw [List.eq_of_mem_replicate hd]
    decide
  have happend : ∀ {ds es}, Digits ds → Digits es → Digits (ds ++ es) := by
    intro ds es hds hes e he
    rcases List.mem_append.1 he with he | he
    · exact hds e he
    · exact hes e he
  have hdigits : Digits d.digits := by
    rcases h with rfl | ⟨-, hdigits⟩
    · simp [Digits]
    · exact hdigits
  unfold ofDecimal
  split
  · split
    · exact ⟨by simp [Digits], Or.inl rfl, happend (hzeros _) hdigits, by simp⟩
    · have hpadded := happend hdigits (hzeros (d.exponent.toNat + 1 + 1 - d.digits.length))
      refine ⟨fun e he => hpadded e (List.mem_of_mem_take he), ?_,
        fun e he => hpadded e (List.mem_of_mem_drop he), by simp⟩
      rcases h with rfl | ⟨⟨e, rest, hds, he⟩, -⟩
      · exact Or.inl rfl
      · refine Or.inr ⟨e, (rest ++ List.replicate (d.exponent.toNat + 1 + 1 - (e :: rest).length)
          0).take d.exponent.toNat, ?_, he⟩
        rw [hds]
        rfl
  · rename_i hrange
    refine ⟨fun e he => hdigits e (List.mem_of_mem_take he), ?_,
      fun e he => hdigits e (List.mem_of_mem_drop he), fun e he => ?_⟩
    · rcases h with rfl | ⟨⟨e, rest, hds, he⟩, -⟩
      · exact absurd (by decide) hrange
      · refine Or.inr ⟨e, [], ?_, he⟩
        rw [hds]
        rfl
    · obtain rfl := Option.some.inj he
      exact ⟨digitsOf_ne_nil _, fun e he => lt_ten_of_mem_digitsOf he⟩

/-- The numeral of a coordinate is one that a reader accepts. -/
theorem wellFormed_ofBinary64 (x : Binary64) : (ofBinary64 x).WellFormed := by
  unfold ofBinary64
  split
  · exact ⟨by simp [Digits], Or.inl rfl, by simp [Digits], by simp⟩
  · rename_i hx
    exact wellFormed_ofDecimal _ (Binary64.shortestFrom_leads (by simpa using hx) 17 1)

end Json.Numeral

end Floorplan
