import Floorplan.Text.Blank
import Floorplan.Text.Digit
import Floorplan.Text.Lowercase
import Floorplan.Text.Search

set_option autoImplicit false

/-! # Texts in which ASCII capitals are small letters

Replacing the ASCII capitals of a text by small letters changes neither what is white space in it, nor
the numbers, nor where a separator stands, and it does not change the full lower case of the text. That
includes the form of sigma, which depends on the letters around it but not on their case
(`lowerChars_map_toLower`). -/

namespace Floorplan.Text

variable {α : Type}

/-! ## Single characters -/

/-- Only capitals have another small letter, and there are 26 of them. -/
theorem toLower_cases (c : Char) :
    c.toLower = c ∨ ∃ n < 26, c = Char.ofNat (65 + n) ∧ c.toLower = Char.ofNat (97 + n) := by
  by_cases h : c.val ≥ 'A'.val ∧ c.val ≤ 'Z'.val
  · refine Or.inr ⟨c.toNat - 65, ?_, ?_⟩
    · have hhigh : c.toNat ≤ 90 := h.2
      omega
    · have hlow : 65 ≤ c.toNat := h.1
      have hhigh : c.toNat ≤ 90 := h.2
      have hc : c = Char.ofNat (65 + (c.toNat - 65)) := by
        rw [Nat.add_sub_cancel' hlow, Char.ofNat_toNat]
      refine ⟨hc, ?_⟩
      have key : ∀ n : Fin 26, (Char.ofNat (65 + n.val)).toLower = Char.ofNat (97 + n.val) := by decide
      rw [congrArg Char.toLower hc]
      exact key ⟨c.toNat - 65, by omega⟩
  · left
    unfold Char.toLower
    rw [dif_neg h]

/-- What is the same of every capital and its small letter is the same of every character and its
    small letter. -/
theorem apply_toLower {f : Char → α}
    (hf : ∀ n < 26, f (Char.ofNat (97 + n)) = f (Char.ofNat (65 + n))) (c : Char) :
    f c.toLower = f c := by
  rcases toLower_cases c with hsame | ⟨n, hn, hcapital, hsmall⟩
  · rw [hsame]
  · rw [hsmall, hf n hn, ← hcapital]

@[simp] theorem isBlank_toLower (c : Char) : isBlank c.toLower = isBlank c :=
  apply_toLower (by decide) c

@[simp] theorem isDigit_toLower (c : Char) : isDigit c.toLower = isDigit c :=
  apply_toLower (by decide) c

@[simp] theorem digitValue?_toLower (c : Char) : digitValue? c.toLower = digitValue? c :=
  apply_toLower (by decide) c

@[simp] theorem smallLetter_toLower (c : Char) : smallLetter c.toLower = smallLetter c :=
  apply_toLower (by decide) c

@[simp] theorem toLower_toLower (c : Char) : c.toLower.toLower = c.toLower :=
  apply_toLower (f := Char.toLower) (by decide) c

/-- A character that is no letter is found in the same places. -/
theorem toLower_eq_iff {c x : Char} (hc : c.isAlpha = false) : x.toLower = c ↔ x = c := by
  have hsame : (decide (x.toLower = c)) = decide (x = c) := by
    refine apply_toLower (f := fun y => decide (y = c)) (fun n hn => ?_) x
    have key : ∀ n < 26, (Char.ofNat (97 + n)).isAlpha = true ∧
        (Char.ofNat (65 + n)).isAlpha = true := by
      decide
    obtain ⟨hsmall, hcapital⟩ := key n hn
    have hne : ∀ y : Char, y.isAlpha = true → y ≠ c := by
      rintro y hy rfl
      rw [hc] at hy
      cases hy
    rw [decide_eq_false (hne _ hsmall), decide_eq_false (hne _ hcapital)]
  simpa using hsame

theorem toList_toLower (s : String) : s.toLower.toList = s.toList.map Char.toLower :=
  String.toList_map

theorem toLower_ofList (s : List Char) :
    (String.ofList s).toLower = String.ofList (s.map Char.toLower) := by
  rw [← String.toList_inj, toList_toLower, String.toList_ofList, String.toList_ofList]

/-! ## White space, numbers, pieces -/

theorem trimLeft_map_toLower (s : List Char) :
    trimLeft (s.map Char.toLower) = (trimLeft s).map Char.toLower := by
  rw [trimLeft, List.dropWhile_map]
  congr 2
  funext c
  exact isBlank_toLower c

theorem trimChars_map_toLower (s : List Char) :
    trimChars (s.map Char.toLower) = (trimChars s).map Char.toLower := by
  have hright : ∀ t : List Char, trimRight t = (trimLeft t.reverse).reverse := fun _ => rfl
  rw [trimChars, trimChars, trimLeft_map_toLower, hright, hright, ← List.map_reverse,
    trimLeft_map_toLower, List.map_reverse]

theorem decimalFrom_map_toLower (value : Nat) (s : List Char) :
    decimalFrom value (s.map Char.toLower) = decimalFrom value s := by
  induction s generalizing value with
  | nil => rfl
  | cons c s ih =>
    simp only [List.map_cons, decimalFrom, digitValue?_toLower, ih]

theorem word?_map_toLower (s : List Char) : word? (s.map Char.toLower) = word? s := by
  unfold word?
  cases s with
  | nil => rfl
  | cons c s => exact congrArg _ (decimalFrom_map_toLower 0 (c :: s))

theorem splitAt_map_toLower {separator : Char} (h : separator.isAlpha = false) (s : List Char) :
    splitAt separator (s.map Char.toLower) = (splitAt separator s).map (List.map Char.toLower) := by
  induction s with
  | nil => rfl
  | cons c s ih =>
    simp only [List.map_cons, splitAt, ih]
    cases hsplit : splitAt separator s with
    | nil => exact absurd hsplit (splitAt_ne_nil _ _)
    | cons piece pieces =>
      simp only [List.map_cons]
      by_cases hc : c = separator
      · rw [if_pos hc, if_pos ((toLower_eq_iff h).2 hc)]
        rfl
      · rw [if_neg hc, if_neg (mt (toLower_eq_iff h).1 hc)]
        rfl

theorem mem_toLower_iff {cs : List Char} (hcs : ∀ c ∈ cs, c.isAlpha = false) (x : Char) :
    x.toLower ∈ cs ↔ x ∈ cs := by
  constructor
  · intro h
    rwa [(toLower_eq_iff (hcs _ h)).1 rfl]
  · intro h
    rwa [(toLower_eq_iff (hcs x h)).2 rfl]

theorem without_map_toLower {dropped : List Char} (h : ∀ c ∈ dropped, c.isAlpha = false)
    (s : List Char) :
    without dropped (s.map Char.toLower) = (without dropped s).map Char.toLower := by
  rw [without, List.filter_map, without]
  congr 2
  funext c
  simp only [Function.comp_apply, List.contains_eq_mem, mem_toLower_iff h c]

/-! ## Lower case -/

theorem casedNext_map_toLower (s : List Char) : casedNext (s.map Char.toLower) = casedNext s := by
  have hignored : ∀ c : Char,
      caseIgnorableTable.contains c.toLower.toNat = caseIgnorableTable.contains c.toNat := fun c =>
    apply_toLower (f := fun c => caseIgnorableTable.contains c.toNat) (by decide) c
  have hcased : ∀ c : Char, casedTable.contains c.toLower.toNat = casedTable.contains c.toNat :=
    fun c => apply_toLower (f := fun c => casedTable.contains c.toNat) (by decide) c
  unfold casedNext
  rw [List.dropWhile_map]
  have hskip : ((fun c : Char => caseIgnorableTable.contains c.toNat) ∘ Char.toLower)
      = fun c => caseIgnorableTable.contains c.toNat := funext hignored
  rw [hskip]
  cases s.dropWhile fun c => caseIgnorableTable.contains c.toNat with
  | nil => rfl
  | cons c rest => exact hcased c

theorem lowerAfter_map_toLower (before s : List Char) :
    lowerAfter (before.map Char.toLower) (s.map Char.toLower) = lowerAfter before s := by
  induction s generalizing before with
  | nil => rfl
  | cons c rest ih =>
    have hsigma : c.toLower = 'Σ' ↔ c = 'Σ' := toLower_eq_iff (by decide)
    have hdotted : c.toLower = 'İ' ↔ c = 'İ' := toLower_eq_iff (by decide)
    simp only [List.map_cons, lowerAfter, hsigma, hdotted, smallLetter_toLower, smallSigma,
      casedNext_map_toLower]
    rw [← ih (c :: before), List.map_cons]

/-- **The full lower case does not depend on the case of ASCII letters.** -/
theorem lowerChars_map_toLower (s : List Char) :
    lowerChars (s.map Char.toLower) = lowerChars s := lowerAfter_map_toLower [] s

end Floorplan.Text
