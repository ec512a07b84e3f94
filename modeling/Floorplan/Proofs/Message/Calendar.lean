import Floorplan.Message.Timestamp
import Mathlib.Tactic.IntervalCases

set_option autoImplicit false

/-! # Days of the calendar

Counting days and naming them by year, month and day are inverse: a number of days is that of the day
that it names (`Date.toDays_ofDays`), and what it names is a day of the calendar, with a month of twelve
and a day that the month has (`Date.isValid_ofDays`), as long as the year can be written.

Both directions count years from March, so that the leap day is the last of its year, and go by cycles
of 400 years. `CountsTo` is the place of a day in such years. -/

namespace Floorplan.Date

/-! ## Years counted from March -/

/-- The year in which a day of a cycle lies begins at most a year before it. The year is as long as a
    leap year only if the year that follows by the calendar is one. -/
theorem yearOfCycle_bounds {day year : Int} (hday : 0 ≤ day ∧ day < 146097)
    (hyear : year = (day - day / 1460 + day / 36524 - day / 146096) / 365) :
    (0 ≤ year ∧ year < 400) ∧
      (0 ≤ day - (365 * year + year / 4 - year / 100) ∧
        day - (365 * year + year / 4 - year / 100) ≤ 365) ∧
      (day - (365 * year + year / 4 - year / 100) = 365 →
        (year + 1) % 4 = 0 ∧ ((year + 1) % 100 ≠ 0 ∨ year = 399)) := by
  obtain ⟨hfirst, hlast⟩ := hday
  -- Four years have 1460 days or one more, which makes the year almost linear in the day.
  have hoffset : year = 4 * (day / 1460) - 1 ∨ year = 4 * (day / 1460) ∨
      year = 4 * (day / 1460) + 1 ∨ year = 4 * (day / 1460) + 2 ∨
      year = 4 * (day / 1460) + 3 := by omega
  have hcentury : day / 36524 = 0 ∨ day / 36524 = 1 ∨ day / 36524 = 2 ∨ day / 36524 = 3 ∨
      day / 36524 = 4 := by omega
  have hcase : day / 146096 = 0 ∧ year / 100 = day / 36524 ∨ day = 146096 := by
    rcases hcentury with h | h | h | h | h <;> omega
  rcases hcase with ⟨hordinary, hsame⟩ | rfl
  · rw [hsame]
    rcases hoffset with h | h | h | h | h <;> omega
  -- The last day of the cycle is a day of its own: it does not begin a fifth century.
  · subst hyear
    decide

/-- A day by its place in the years counted from March: the cycle of 400 years, the year of the cycle,
    the month of the year and the day of the month, all from zero. -/
structure CountsTo (cycle year month day days : Int) : Prop where
  days_eq : days = cycle * 146097 + year * 365 + year / 4 - year / 100 +
    (153 * month + 2) / 5 + day - 719468
  year_bounds : 0 ≤ year ∧ year < 400
  month_bounds : 0 ≤ month ∧ month ≤ 11
  day_nonneg : 0 ≤ day
  /-- A month ends where the next one begins, and the last one with the year. -/
  day_lt : month < 11 → (153 * month + 2) / 5 + day < (153 * (month + 1) + 2) / 5
  day_le : month = 11 → day ≤ 27 ∨
    day = 28 ∧ (year + 1) % 4 = 0 ∧ ((year + 1) % 100 ≠ 0 ∨ year = 399)

/-- What a number of days names: its place, with January and February put in the next year. -/
theorem ofDays_eq (days : Int) : ∃ cycle year month day, CountsTo cycle year month day days ∧
    ofDays days =
      if month < 10 then ⟨year + cycle * 400, (month + 3).toNat, (day + 1).toNat⟩
      else ⟨year + cycle * 400 + 1, (month - 9).toNat, (day + 1).toNat⟩ := by
  obtain ⟨cycle, dayOfCycle, hshifted, hbounds⟩ : ∃ cycle dayOfCycle : Int,
      days + 719468 = cycle * 146097 + dayOfCycle ∧ 0 ≤ dayOfCycle ∧ dayOfCycle < 146097 :=
    ⟨(days + 719468) / 146097, (days + 719468) % 146097, by omega, by omega⟩
  have hcycle : (days + 719468).fdiv 146097 = cycle := by
    rw [Int.fdiv_eq_ediv_of_nonneg _ (by decide)]
    omega
  have hrest : days + 719468 - cycle * 146097 = dayOfCycle := by omega
  generalize hyear : (dayOfCycle - dayOfCycle / 1460 + dayOfCycle / 36524
    - dayOfCycle / 146096) / 365 = year
  obtain ⟨hyears, hdayOfYear, hleap⟩ := yearOfCycle_bounds hbounds hyear.symm
  generalize hday : dayOfCycle - (365 * year + year / 4 - year / 100) = dayOfYear at *
  generalize hmonth : (5 * dayOfYear + 2) / 153 = month
  refine ⟨cycle, year, month, dayOfYear - (153 * month + 2) / 5,
    ⟨by omega, hyears, by omega, by omega, by omega, fun hlast => ?_⟩, ?_⟩
  · by_cases hlong : dayOfYear = 365
    · exact Or.inr ⟨by omega, hleap hlong⟩
    · exact Or.inl (by omega)
  · simp only [ofDays, hcycle, hrest, hyear, hday, hmonth]

/-! ## The calendar -/

/-- **The day that a number of days names is that many days after the first.** -/
theorem toDays_ofDays (days : Int) : (ofDays days).toDays = days := by
  obtain ⟨cycle, year, month, day, ⟨hdays, hyear, hmonth, hday, -, -⟩, heq⟩ := ofDays_eq days
  have hcycle : (year + cycle * 400).fdiv 400 = cycle := by
    rw [Int.fdiv_eq_ediv_of_nonneg _ (by decide)]
    omega
  rw [heq]
  split
  · have hlate : ¬ (month + 3).toNat ≤ 2 := by omega
    have hback : ((month + 3).toNat : Int) - 3 = month := by omega
    simp only [toDays, hlate, if_false, hback, hcycle]
    omega
  · have hearly : (month - 9).toNat ≤ 2 := by omega
    have hback : ((month - 9).toNat : Int) + 9 = month := by omega
    have hprevious : year + cycle * 400 + 1 - 1 = year + cycle * 400 := by omega
    simp only [toDays, hearly, if_true, hback, hprevious, hcycle]
    omega

theorem month_ofDays (days : Int) : 1 ≤ (ofDays days).month ∧ (ofDays days).month ≤ 12 := by
  obtain ⟨cycle, year, month, day, h, heq⟩ := ofDays_eq days
  have hmonth := h.month_bounds
  rw [heq]
  split <;> constructor <;> simp only <;> omega

theorem day_ofDays (days : Int) : 1 ≤ (ofDays days).day ∧
    (ofDays days).day ≤ daysInMonth (ofDays days).year (ofDays days).month := by
  obtain ⟨cycle, year, month, day, h, heq⟩ := ofDays_eq days
  obtain ⟨-, hyear, ⟨hfirst, hlast⟩, hday, hends, hleap⟩ := h
  rw [heq]
  clear heq
  -- The lengths of the months are a table, which is compared with the formula month by month.
  interval_cases month <;> simp [daysInMonth, isLeapYear] at * <;> omega

/-- A number of days names a day of the calendar, as far as its year can be written. -/
theorem isValid_ofDays {days : Int} (h : years.1 ≤ (ofDays days).year ∧ (ofDays days).year ≤ years.2) :
    (ofDays days).isValid = true := by
  obtain ⟨hfirst, hlast⟩ := h
  obtain ⟨hjanuary, hdecember⟩ := month_ofDays days
  obtain ⟨hbegin, hend⟩ := day_ofDays days
  simp only [isValid, hfirst, hlast, hjanuary, hdecember, hbegin, hend, decide_true, Bool.and_self]

/-- The days from 1970 up to the year 10000 lie in years of at most four digits. -/
theorem year_ofDays {days : Int} (hfirst : 0 ≤ days) (hlast : days < 2932897) :
    0 ≤ (ofDays days).year ∧ (ofDays days).year ≤ 9999 := by
  obtain ⟨cycle, year, month, day, ⟨hdays, hyear, hmonth, hday, hends, hleap⟩, heq⟩ := ofDays_eq days
  have hcycle : 4 ≤ cycle ∧ cycle ≤ 24 := by omega
  rw [heq]
  split <;> constructor <;> simp only <;> omega

end Floorplan.Date
