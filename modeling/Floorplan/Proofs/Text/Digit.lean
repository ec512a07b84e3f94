import Floorplan.Proofs.Text.Blank
import Floorplan.Proofs.Text.Decimal
import Floorplan.Proofs.Text.LetterCase
import Floorplan.Proofs.Text.Lowercase
import Floorplan.Pattern.Basic

set_option autoImplicit false

/-! # Digits of any script

A request recognises the decimal digits of every script, and each of them has a value (`digitOf`), so that
every run of digits denotes a number (`numberOf`). As a number only a run of ASCII digits is read: then it
is read as the number that it denotes (`decimal?_eq`). -/

namespace Floorplan.Text

variable {c : Char} {s : List Char}

/-! ## What digits are not -/

theorem ascending_digitTable : digitTable.Ascending := ⟨by decide, by decide +kernel⟩

theorem exists_of_isDigit (h : isDigit c = true) :
    ∃ r ∈ digitTable, r.1 ≤ c.toNat ∧ c.toNat ≤ r.2 :=
  (CodePoints.contains_iff ascending_digitTable _).1 h

theorem ne_of_isDigit {x : Char} (hx : isDigit x = false) (h : isDigit c = true) : c ≠ x := by
  rintro rfl
  rw [hx] at h
  cases h

theorem smallIn_eq_none {runs : List CapitalRun} {n : Nat}
    (h : ∀ run ∈ runs, n < run.first ∨ run.last < n) : smallIn runs n = none := by
  induction runs with
  | nil => rfl
  | cons run runs ih =>
    obtain ⟨hrun, hruns⟩ := List.forall_mem_cons.1 h
    unfold smallIn
    split
    · rfl
    · rw [if_neg (by omega), ih hruns]

/-- No digit is a capital. -/
theorem smallLetter_of_isDigit (h : isDigit c = true) : smallLetter c = c := by
  have hapart : (digitTable.all fun r => capitalRuns.all fun run =>
      r.2.blt run.first || run.last.blt r.1) = true := by decide +kernel
  obtain ⟨r, hr, hlow, hhigh⟩ := exists_of_isDigit h
  have hnone : smallIn capitalRuns c.toNat = none := smallIn_eq_none fun run hrun => by
    have hrun := List.all_eq_true.1 (List.all_eq_true.1 hapart r hr) run hrun
    simp only [Bool.or_eq_true, Nat.blt_eq] at hrun
    omega
  rw [smallLetter, hnone]

theorem smallForm_of_isDigit (h : isDigit c = true) : smallForm c = [c] := by
  rw [smallForm, if_neg (ne_of_isDigit (by decide) h), if_neg (ne_of_isDigit (by decide) h),
    smallLetter_of_isDigit h, mergeSigma, if_neg (ne_of_isDigit (by decide) h)]

theorem foldLetter_of_isDigit (h : isDigit c = true) : foldLetter c = c := by
  rw [foldLetter, if_neg (ne_of_isDigit (by decide) h), if_neg (ne_of_isDigit (by decide) h)]
  rcases toLower_cases c with hsame | ⟨n, hn, hcapital, -⟩
  · exact hsame
  · have hcapitals : ∀ n < 26, isDigit (Char.ofNat (65 + n)) = false := by decide
    exact absurd hcapital (ne_of_isDigit (hcapitals n hn) h)

theorem isBlank_of_isDigit (h : isDigit c = true) : isBlank c = false := by
  have hapart : ∀ r ∈ digitTable, ∀ b ∈ blankTable, r.2 < b.1 ∨ b.2 < r.1 := by decide +kernel
  have hblank : blankTable.Ascending := ⟨by decide, by decide⟩
  obtain ⟨r, hr, hlow, hhigh⟩ := exists_of_isDigit h
  rw [isBlank, ← Bool.not_eq_true, CodePoints.contains_iff hblank]
  rintro ⟨b, hb, hblow, hbhigh⟩
  have := hapart r hr b hb
  omega

theorem isBlank_head_of_digits (h : ∀ c ∈ s, isDigit c = true) : ∀ c ∈ s.head?, isBlank c = false :=
  fun c hc => isBlank_of_isDigit (h c (List.mem_of_mem_head? hc))

/-! ## What digits denote -/

/-- The value of a decimal digit. The ten digits of a script follow each other from zero, and every range
    of the table begins with a zero. -/
def digitOf (c : Char) : Nat :=
  match digitTable.find? fun r => r.1 ≤ c.toNat ∧ c.toNat ≤ r.2 with
  | some r => (c.toNat - r.1) % 10
  | none => 0

/-- The number that a run of digits denotes on top of the digits read before. -/
def numberFrom (value : Nat) (s : List Char) : Nat := s.foldl (fun v c => v * 10 + digitOf c) value

/-- The number that a run of digits denotes, of whatever script they are. -/
def numberOf (s : List Char) : Nat := numberFrom 0 s

instance (c : Char) : Decidable (IsDigitChar c) :=
  inferInstanceAs (Decidable ((digitValue? c).isSome = true))

theorem isDigit_of_isDigitChar (h : IsDigitChar c) : isDigit c = true := by
  obtain ⟨d, hd, rfl⟩ := digitChar_of_isDigitChar h
  revert d
  decide

/-- An ASCII digit has the value that it is read with. -/
theorem digitValue?_eq (h : IsDigitChar c) : digitValue? c = some (digitOf c) := by
  obtain ⟨d, hd, rfl⟩ := digitChar_of_isDigitChar h
  revert d
  decide

theorem decimalFrom_eq (value : Nat) (s : List Char) :
    decimalFrom value s = if ∀ c ∈ s, IsDigitChar c then some (numberFrom value s) else none := by
  induction s generalizing value with
  | nil => rfl
  | cons c s ih =>
    by_cases hc : IsDigitChar c
    · simp only [decimalFrom, digitValue?_eq hc, Option.bind_some, ih, List.forall_mem_cons, hc,
        true_and]
      rfl
    · have hnone : digitValue? c = none := by simpa [IsDigitChar] using hc
      simp only [decimalFrom, hnone, Option.bind_none, List.forall_mem_cons, hc, false_and, if_false]

/-- **Only a run of ASCII digits is read as a number**, and it is read as the number it denotes. -/
theorem decimal?_eq (hne : s ≠ []) :
    decimal? s = if ∀ c ∈ s, IsDigitChar c then some (numberOf s) else none := by
  cases s with
  | nil => exact absurd rfl hne
  | cons c s => exact decimalFrom_eq 0 (c :: s)

/-- What is read as a number is a run of ASCII digits. -/
theorem isDigitChar_of_word? {n : Nat} (h : word? s = some n) : s ≠ [] ∧ ∀ c ∈ s, IsDigitChar c := by
  have hdecimal : decimal? s = some n := (Option.filter_eq_some_iff.1 h).1
  have hne : s ≠ [] := by
    rintro rfl
    cases hdecimal
  rw [decimal?_eq hne] at hdecimal
  exact ⟨hne, (Option.ite_none_right_eq_some.1 hdecimal).1⟩

theorem isDigit_of_word? {n : Nat} (h : word? s = some n) : s ≠ [] ∧ ∀ c ∈ s, isDigit c = true := by
  obtain ⟨hne, hs⟩ := isDigitChar_of_word? h
  exact ⟨hne, fun c hc => isDigit_of_isDigitChar (hs c hc)⟩

end Floorplan.Text
