import Floorplan.Building.Generate
import Mathlib.Tactic.Ring

set_option autoImplicit false

/-! # The layout grid

The coordinates of the grid are whole numbers, and a whole number below `2 ^ 53` is a coordinate
exactly, so neither the product nor the sum in a grid point is rounded (`isWhole_gridPoint`). Points
with different indices are therefore different, as far as anybody will count (`gridPoint_inj`). -/

namespace Floorplan

namespace Binary64

/-! ## Whole coordinates -/

/-- The exponent is named, because the power itself is too large to be worked out. -/
theorem unitsPerOne_eq : ∃ k, k = 1074 ∧ unitsPerOne = 2 ^ k := by
  unfold unitsPerOne
  generalize 1074 = k
  exact ⟨k, rfl, rfl⟩

theorem unitsPerOne_pos : 0 < unitsPerOne := by
  obtain ⟨k, -, hunits⟩ := unitsPerOne_eq
  rw [hunits]
  exact Nat.two_pow_pos k

theorem log2_mul_two_pow {n : Nat} (hn : 0 < n) (k : Nat) :
    Nat.log2 (n * 2 ^ k) = Nat.log2 n + k := by
  have hpos : n * 2 ^ k ≠ 0 := (Nat.mul_pos hn (Nat.two_pow_pos k)).ne'
  have hlow := Nat.log2_self_le hn.ne'
  have hhigh := Nat.lt_log2_self (n := n)
  rw [Nat.log2_eq_iff hpos]
  constructor
  · rw [pow_add]
    exact Nat.mul_le_mul_right _ hlow
  · rw [Nat.add_right_comm, pow_add]
    exact Nat.mul_lt_mul_of_pos_right hhigh (Nat.two_pow_pos k)

theorem roundDiv_mul {den : Nat} (hden : 0 < den) (q : Nat) : roundDiv (q * den) den = q := by
  have hround : 2 * (q * den % den) < den := by rwa [Nat.mul_mod_left]
  simp only [roundDiv, if_pos hround, Nat.mul_div_cancel _ hden]

/-- A quotient that has a significand is not rounded. -/
theorem ofUnits?_exact {value den significand scale : Nat} (negative : Bool) (hden : 0 < den)
    (hscale : Nat.log2 value - 52 = scale) (hvalue : significand * 2 ^ scale = value)
    (hcanonical : IsCanonical significand scale) :
    ofUnits? negative (value * den) den = some ⟨negative, significand, scale, hcanonical⟩ := by
  have hround : roundDiv (value * den) (den * Nat.pow 2 scale) = significand := by
    have hdens : value * den = significand * (den * Nat.pow 2 scale) := by
      rw [← hvalue, Nat.mul_assoc, Nat.mul_comm den]
      rfl
    rw [hdens]
    exact roundDiv_mul (Nat.mul_pos hden (Nat.two_pow_pos scale)) significand
  have hlt : significand ≠ Nat.pow 2 53 := hcanonical.1.ne
  simp only [ofUnits?, Nat.mul_div_cancel _ hden, hscale, hround, if_neg hlt, ofParts?,
    dif_pos hcanonical]

/-- A whole number below `2 ^ 53` is a coordinate. -/
theorem ofUnits?_whole {n den : Nat} (hn : n < 2 ^ 53) (hden : 0 < den) :
    ∃ x, ofUnits? false (n * unitsPerOne * den) den = some x ∧ x.negative = false ∧
      x.magnitude = n * unitsPerOne := by
  rcases Nat.eq_zero_or_pos n with rfl | hpos
  · have hzero : IsCanonical 0 0 := by decide
    have hexact : ofUnits? false (0 * unitsPerOne * den) den = some ⟨false, 0, 0, hzero⟩ := by
      rw [Nat.zero_mul]
      exact ofUnits?_exact false hden rfl rfl hzero
    exact ⟨_, hexact, rfl, by rw [magnitude, Nat.zero_mul, Nat.zero_mul]⟩
  · -- The significand is shifted until it has 53 digits.
    have hlog : Nat.log2 n ≤ 52 := Nat.lt_succ_iff.1 ((Nat.log2_lt hpos.ne').2 hn)
    obtain ⟨k, hk, hunits⟩ := unitsPerOne_eq
    have hexponent : 52 - Nat.log2 n + (Nat.log2 n + 1022) = k := by omega
    have hscale : Nat.log2 (n * unitsPerOne) - 52 = Nat.log2 n + 1022 := by
      rw [hunits, log2_mul_two_pow hpos]
      omega
    have hvalue : n * 2 ^ (52 - Nat.log2 n) * 2 ^ (Nat.log2 n + 1022) = n * unitsPerOne := by
      rw [Nat.mul_assoc, ← pow_add, hunits, hexponent]
    have hcanonical : IsCanonical (n * 2 ^ (52 - Nat.log2 n)) (Nat.log2 n + 1022) := by
      have hlow := Nat.mul_le_mul_right (2 ^ (52 - Nat.log2 n)) (Nat.log2_self_le hpos.ne')
      have hhigh := Nat.mul_lt_mul_of_pos_right (Nat.lt_log2_self (n := n))
        (Nat.two_pow_pos (52 - Nat.log2 n))
      rw [← pow_add, Nat.add_sub_cancel' hlog] at hlow
      rw [← pow_add, Nat.add_right_comm, Nat.add_sub_cancel' hlog] at hhigh
      exact ⟨hhigh, by omega, Or.inr hlow⟩
    exact ⟨_, ofUnits?_exact false hden hscale hvalue hcanonical, rfl, hvalue⟩

/-- The coordinate is a whole number that is not negative. -/
def IsWhole (x : Binary64) (n : Nat) : Prop := x.negative = false ∧ x.magnitude = n * unitsPerOne

theorem ofNat?_whole {n : Nat} (hn : n < 2 ^ 53) : ∃ x, ofNat? n = some x ∧ x.IsWhole n := by
  obtain ⟨x, hx, hwhole⟩ := ofUnits?_whole hn Nat.one_pos
  rw [Nat.mul_one] at hx
  exact ⟨x, hx, hwhole⟩

theorem isWhole_ofNat {n : Nat} (hn : n < 2 ^ 53) : (ofNat n).IsWhole n := by
  obtain ⟨x, hx, hwhole⟩ := ofNat?_whole hn
  rw [ofNat, hx]
  exact hwhole

variable {x y : Binary64} {m n : Nat}

theorem IsWhole.mul? (hx : x.IsWhole m) (hy : y.IsWhole n) (hmn : m * n < 2 ^ 53) :
    ∃ z, x.mul? y = some z ∧ z.IsWhole (m * n) := by
  have hproduct : x.magnitude * y.magnitude = m * n * unitsPerOne * unitsPerOne := by
    rw [hx.2, hy.2]
    ring
  rw [Binary64.mul?, hx.1, hy.1, hproduct]
  exact ofUnits?_whole hmn unitsPerOne_pos

theorem IsWhole.add? (hx : x.IsWhole m) (hy : y.IsWhole n) (hmn : m + n < 2 ^ 53) :
    ∃ z, x.add? y = some z ∧ z.IsWhole (m + n) := by
  obtain ⟨z, hz, hwhole⟩ := ofUnits?_whole hmn Nat.one_pos
  refine ⟨z, ?_, hwhole⟩
  have hsum : x.signed + y.signed = ((m + n) * unitsPerOne : Nat) := by
    simp only [signed, hx.1, hy.1, hx.2, hy.2, Bool.false_eq_true, ↓reduceIte, Nat.add_mul,
      Nat.cast_add]
  rw [Nat.mul_one] at hz
  generalize (m + n) * unitsPerOne = units at hz hsum
  have hplus : (if (units : Int) = 0 then x.negative && y.negative
      else decide ((units : Int) < 0)) = false := by
    rw [hx.1]
    split
    · rfl
    · exact decide_eq_false (by omega)
  simp only [Binary64.add?, hsum, hplus, Int.natAbs_natCast]
  exact hz

end Binary64

/-! ## Points of the grid -/

variable {base step i j : Nat}

/-- A point of the grid is the whole number that it is meant to be. -/
theorem isWhole_gridPoint (hbase : base < 2 ^ 10) (hstep : step < 2 ^ 10) (hi : i < 2 ^ 40) :
    (gridPoint base step i).IsWhole (base + i * step) := by
  have hoffset : i * step < 2 ^ 40 * 2 ^ 10 := Nat.mul_lt_mul'' hi hstep
  obtain ⟨index, hindex, hwhole⟩ := Binary64.ofNat?_whole (n := i) (by omega)
  obtain ⟨offset, hmul, hwhole⟩ :=
    hwhole.mul? (Binary64.isWhole_ofNat (n := step) (by omega)) (by omega)
  obtain ⟨point, hadd, hwhole⟩ :=
    (Binary64.isWhole_ofNat (n := base) (by omega)).add? hwhole (by omega)
  have hpoint : gridPoint base step i
      = (((Binary64.ofNat? i).bind (·.mul? (Binary64.ofNat step))).bind
        (Binary64.ofNat base).add?).getD Binary64.zero := rfl
  rw [hpoint, hindex, Option.bind_some, hmul, Option.bind_some, hadd, Option.getD_some]
  exact hwhole

/-- Points with different indices are different, as far as anybody will count. -/
theorem gridPoint_inj (hbase : base < 2 ^ 10) (hstep : step < 2 ^ 10) (hpos : 0 < step)
    (hi : i < 2 ^ 40) (hj : j < 2 ^ 40) (h : gridPoint base step i = gridPoint base step j) :
    i = j := by
  have hmagnitude := congrArg Binary64.magnitude h
  rw [(isWhole_gridPoint hbase hstep hi).2, (isWhole_gridPoint hbase hstep hj).2] at hmagnitude
  have hsum := Nat.eq_of_mul_eq_mul_right Binary64.unitsPerOne_pos hmagnitude
  exact Nat.eq_of_mul_eq_mul_right hpos (Nat.add_left_cancel hsum)

theorem restroomPosition_inj (hi : i < 2 ^ 40) (hj : j < 2 ^ 40)
    (h : restroomPosition i = restroomPosition j) : i = j :=
  gridPoint_inj (by decide) (by decide) (by decide) hi hj (congrArg Position.x h)

theorem corridorPosition_inj (hi : i < 2 ^ 40) (hj : j < 2 ^ 40)
    (h : corridorPosition i = corridorPosition j) : i = j :=
  gridPoint_inj (by decide) (by decide) (by decide) hi hj (congrArg Position.y h)

theorem liftPosition_inj {y : Binary64} (hi : i < 2 ^ 40) (hj : j < 2 ^ 40)
    (h : liftPosition i y = liftPosition j y) : i = j :=
  gridPoint_inj (by decide) (by decide) (by decide) hi hj (congrArg Position.x h)

end Floorplan
