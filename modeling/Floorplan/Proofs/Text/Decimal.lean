import Floorplan.Text.Blank
import Floorplan.Text.Digit
import Mathlib.Data.Nat.Digits.Defs
import Mathlib.Tactic.IntervalCases

set_option autoImplicit false

/-! # Decimal numbers

A number that is written in decimal digits is read as the number it is (`decimalFrom_toDigits`), and its
digits are nothing else than digits. -/

namespace Floorplan.Text

/-- This is a decimal digit. -/
def IsDigitChar (c : Char) : Prop := (digitValue? c).isSome = true

theorem isDigitChar_of_isDigit {c : Char} (h : c.isDigit = true) : IsDigitChar c := by
  simp only [Char.isDigit, Bool.and_eq_true, decide_eq_true_eq] at h
  have hrange : '0' ≤ c ∧ c ≤ '9' := h
  simp [IsDigitChar, digitValue?, hrange]

theorem digitChar_of_isDigitChar {c : Char} (h : IsDigitChar c) : ∃ d < 10, c = Nat.digitChar d := by
  unfold IsDigitChar digitValue? at h
  split at h
  · rename_i hrange
    obtain ⟨hlow, hhigh⟩ := hrange
    have hlow : 48 ≤ c.toNat := hlow
    have hhigh : c.toNat ≤ 57 := hhigh
    have hofNat : c = Char.ofNat c.toNat := (Char.ofNat_toNat c).symm
    refine ⟨c.toNat - 48, by omega, ?_⟩
    rw [hofNat]
    generalize c.toNat = n at *
    interval_cases n <;> rfl
  · cases h

theorem digitValue?_natDigitChar {d : Nat} (h : d < 10) : digitValue? (Nat.digitChar d) = some d := by
  interval_cases d <;> rfl

/-- Digits are neither white space nor signs. -/
theorem isBlank_of_isDigitChar {c : Char} (h : IsDigitChar c) :
    isBlank c = false ∧ c ≠ '-' ∧ c ≠ '+' := by
  obtain ⟨d, hd, rfl⟩ := digitChar_of_isDigitChar h
  interval_cases d <;> decide

theorem decimalFrom_append (value : Nat) (s t : List Char) :
    decimalFrom value (s ++ t) = (decimalFrom value s).bind (decimalFrom · t) := by
  induction s generalizing value with
  | nil => rfl
  | cons c s ih =>
    simp only [List.cons_append, decimalFrom, Option.bind_assoc]
    refine congrArg _ (funext fun d => ?_)
    exact ih _

theorem decimalFrom_toDigits (n : Nat) : decimalFrom 0 (Nat.toDigits 10 n) = some n := by
  induction n using Nat.strong_induction_on with
  | _ n ih =>
    by_cases hn : n < 10
    · rw [Nat.toDigits_of_lt_base hn]
      simp [decimalFrom, digitValue?_natDigitChar hn]
    · rw [Nat.toDigits_of_base_le (by decide) (by omega), decimalFrom_append, ih _ (by omega)]
      have hlast : n % 10 < 10 := Nat.mod_lt n (by decide)
      simp only [Option.bind_some, decimalFrom, digitValue?_natDigitChar hlast]
      congr 1
      omega

theorem decimalFrom_zeros (count : Nat) (s : List Char) :
    decimalFrom 0 (List.replicate count '0' ++ s) = decimalFrom 0 s := by
  induction count with
  | zero => rfl
  | succ count ih =>
    rw [List.replicate_succ, List.cons_append]
    exact ih

/-- A number that fits a word is read as it was written. -/
theorem word?_toDigits {n : Nat} (h : n < wordLimit) : word? (Nat.toDigits 10 n) = some n := by
  have hdecimal : decimal? (Nat.toDigits 10 n) = some n := by
    have hfrom := decimalFrom_toDigits n
    have hne : Nat.toDigits 10 n ≠ [] := List.length_pos_iff.1 Nat.length_toDigits_pos
    generalize Nat.toDigits 10 n = s at *
    cases s with
    | nil => exact absurd rfl hne
    | cons c s => exact hfrom
  rw [word?, hdecimal, Option.filter_some, if_pos (decide_eq_true h)]

theorem mem_digits_of_mem_toDigits {n : Nat} {c : Char} (h : c ∈ Nat.toDigits 10 n) :
    c ∈ "0123456789".toList := by
  have hdigit := isDigitChar_of_isDigit (Nat.isDigit_of_mem_toDigits (by decide) (by decide) h)
  obtain ⟨d, hd, rfl⟩ := digitChar_of_isDigitChar hdigit
  interval_cases d <;> decide

end Floorplan.Text
