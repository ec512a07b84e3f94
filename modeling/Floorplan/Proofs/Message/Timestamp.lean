import Floorplan.Message.Basic
import Floorplan.Proofs.Message.Calendar
import Floorplan.Proofs.Text.Blank
import Floorplan.Proofs.Text.Decimal

set_option autoImplicit false

/-! # Timestamps are read as they are written

The text of a timestamp denotes the timestamp again, whatever the fraction of its second and also in a
leap second (`Timestamp.ofText?_toText`). Every number in it is padded to a width that the reader takes
at most, or is followed by something else than a digit; and nothing in it is white space, so that the
reader's leave to skip some does not matter.

Times that can be written are those of a year that can be. What is read from a text is one of them, and
so is what a clock shows before the year 10000. -/

namespace Floorplan

/-! ## Padded numbers -/

namespace Timestamp

open Text (IsDigitChar digitValue? decimal? trimLeft)

theorem isDigitChar_of_mem_padded {width n : Nat} {c : Char} (h : c ∈ padded width n) :
    IsDigitChar c := by
  rcases List.mem_append.1 h with h | h
  · rw [List.eq_of_mem_replicate h]
    rfl
  · exact Text.isDigitChar_of_isDigit (Nat.isDigit_of_mem_toDigits (by decide) (by decide) h)

theorem padded_ne_nil (width n : Nat) : padded width n ≠ [] := by
  have hpos : 0 < (Nat.toDigits 10 n).length := Nat.length_toDigits_pos
  intro h
  rw [padded, List.append_eq_nil_iff] at h
  rw [h.2] at hpos
  exact absurd hpos (by decide)

/-- A padded number denotes the number. -/
theorem decimal?_padded (width n : Nat) : decimal? (padded width n) = some n := by
  have hfrom : Text.decimalFrom 0 (padded width n) = some n := by
    rw [padded, Text.decimalFrom_zeros, Text.decimalFrom_toDigits]
  have hne := padded_ne_nil width n
  generalize padded width n = s at *
  cases s with
  | nil => exact absurd rfl hne
  | cons c s => exact hfrom

/-- A number that the width suffices for is padded to the width. -/
theorem length_padded {width n : Nat} (hwidth : 0 < width) (h : n < 10 ^ width) :
    (padded width n).length = width := by
  have hle := (Nat.length_toDigits_le_iff (by decide) hwidth).2 h
  simp only [padded, List.length_append, List.length_replicate]
  omega

/-- The digits at the beginning of a text. -/
theorem takeWhile_padded (width n : Nat) (s : List Char)
    (hs : ∀ c ∈ s.head?, digitValue? c = none) :
    (padded width n ++ s).takeWhile (fun c => (digitValue? c).isSome) = padded width n := by
  rw [List.takeWhile_append_of_pos fun c hc => isDigitChar_of_mem_padded hc]
  cases s with
  | nil => simp
  | cons c s => simp [hs c rfl]

/-- A padded number is read whole if the reader stops at the width, or what follows is no digit. -/
theorem readNumber?_padded {width n : Nat} (most : Nat) {s : List Char}
    (hmost : (padded width n).length ≤ most)
    (hs : (padded width n).length = most ∨ ∀ c ∈ s.head?, digitValue? c = none) :
    readNumber? most (padded width n ++ s) = some (n, s) := by
  have hdigits : ((padded width n ++ s).take most).takeWhile (fun c => (digitValue? c).isSome)
      = padded width n := by
    rw [List.take_append, List.take_of_length_le hmost]
    refine takeWhile_padded width n _ fun c hc => ?_
    rcases hs with hs | hs
    · simp [hs] at hc
    · cases hleft : most - (padded width n).length with
      | zero => simp [hleft] at hc
      | succ k =>
        rw [hleft, List.head?_take, if_neg (by omega)] at hc
        exact hs c hc
  simp only [readNumber?, hdigits, decimal?_padded, Option.map_some, List.drop_left]

/-- No white space is skipped in front of a padded number. -/
theorem trimLeft_padded (width n : Nat) (s : List Char) :
    trimLeft (padded width n ++ s) = padded width n ++ s := by
  have hdigits : ∀ c ∈ padded width n, IsDigitChar c := fun c hc => isDigitChar_of_mem_padded hc
  have hne := padded_ne_nil width n
  generalize padded width n = digits at *
  cases digits with
  | nil => exact absurd rfl hne
  | cons c digits =>
    exact Text.trimLeft_cons _ (Text.isBlank_of_isDigitChar (hdigits c List.mem_cons_self)).1

/-- Two digits are a part of a date or a time. -/
theorem readPart?_padded {n : Nat} (h : n < 100) (s : List Char) :
    readPart? (padded 2 n ++ s) = some (n, s) := by
  have hlength : (padded 2 n).length = 2 := length_padded (by decide) h
  rw [readPart?, trimLeft_padded]
  exact readNumber?_padded 2 hlength.le (Or.inl hlength)

theorem readMark?_cons {c : Char} (s : List Char) (h : Text.isBlank c = false) :
    readMark? c (c :: s) = some s := by
  simp only [readMark?, Text.trimLeft_cons s h, if_true]

/-! ## Years and fractions -/

theorem readYear?_yearChars (year : Int) (s : List Char) :
    readYear? (yearChars year ++ '-' :: s) = some (year, '-' :: s) := by
  have hminus : ∀ c ∈ ('-' :: s).head?, digitValue? c = none := by
    intro c hc
    cases hc
    rfl
  unfold yearChars
  split
  · rename_i hfour
    have hlength : (padded 4 year.toNat).length = 4 := length_padded (by decide) (by omega)
    have hread := readNumber?_padded 4 (s := '-' :: s) hlength.le (Or.inl hlength)
    have hdigits : ∀ c ∈ padded 4 year.toNat, IsDigitChar c :=
      fun c hc => isDigitChar_of_mem_padded hc
    rw [readYear?, trimLeft_padded]
    generalize padded 4 year.toNat = digits at *
    cases digits with
    | nil => cases hlength
    | cons c digits =>
      obtain ⟨-, hneg, hpos⟩ := Text.isBlank_of_isDigitChar (hdigits c List.mem_cons_self)
      split
      · rename_i heq
        exact absurd (List.cons.inj heq).1 hneg
      · rename_i heq
        exact absurd (List.cons.inj heq).1 hpos
      · simp only [hread, Option.map_some, Int.toNat_of_nonneg hfour.1]
  · have hshort : (padded 4 year.natAbs).length ≤ (padded 4 year.natAbs ++ '-' :: s).length := by
      simp
    have hread := readNumber?_padded _ hshort (Or.inr hminus)
    by_cases hneg : year < 0
    · have hback : -(year.natAbs : Int) = year := by omega
      rw [if_pos hneg, List.cons_append, readYear?, Text.trimLeft_cons _ (by decide)]
      simp only [hread, Option.map_some, hback]
    · have hback : (year.natAbs : Int) = year := by omega
      rw [if_neg hneg, List.cons_append, readYear?, Text.trimLeft_cons _ (by decide)]
      simp only [hread, Option.map_some, hback]

/-- A fraction of as many digits as the width has the value of its padded number. -/
theorem readFraction?_padded {width n : Nat} {s : List Char} (hwidth : 0 < width) (hnine : width ≤ 9)
    (h : n < 10 ^ width) (hs : ∀ c ∈ s.head?, digitValue? c = none) :
    readFraction? ('.' :: padded width n ++ s) = some (n * Nat.pow 10 (9 - width), s) := by
  have hlength := length_padded hwidth h
  have hkept : (padded width n).take 9 = padded width n := List.take_of_length_le (by omega)
  simp only [List.cons_append, readFraction?, takeWhile_padded width n s hs, hkept,
    decimal?_padded, Option.map_some, hlength]
  rw [List.drop_left' hlength]

theorem readFraction?_fractionChars {nanos : Nat} {s : List Char} (h : nanos < 1000000000)
    (hs : ∀ c ∈ s.head?, digitValue? c = none ∧ c ≠ '.') :
    readFraction? (fractionChars nanos ++ s) = some (nanos, s) := by
  have hdigit : ∀ c ∈ s.head?, digitValue? c = none := fun c hc => (hs c hc).1
  unfold fractionChars
  split
  · rename_i hzero
    rw [hzero, List.nil_append]
    unfold readFraction?
    split
    · exact absurd rfl (hs '.' rfl).2
    · rfl
  split
  · rename_i hthree
    rw [readFraction?_padded (by decide) (by decide) (by omega) hdigit]
    congr 2
    exact Nat.div_mul_cancel (Nat.dvd_of_mod_eq_zero hthree)
  split
  · rename_i hsix
    rw [readFraction?_padded (by decide) (by decide) (by omega) hdigit]
    congr 2
    exact Nat.div_mul_cancel (Nat.dvd_of_mod_eq_zero hsix)
  · rw [readFraction?_padded (by decide) (by decide) h hdigit]
    simp

/-! ## Dates and times -/

theorem readDate?_append {d : Date} (hmonth : d.month < 100) (hday : d.day < 100) (s : List Char) :
    readDate? (yearChars d.year ++ '-' :: padded 2 d.month ++ '-' :: padded 2 d.day ++ s)
      = some (d, s) := by
  have hdash : Text.isBlank '-' = false := by decide
  simp only [readDate?, List.append_assoc, List.cons_append, readYear?_yearChars,
    readMark?_cons _ hdash, readPart?_padded hmonth, readPart?_padded hday, Option.bind_eq_bind,
    Option.bind_some]
  rfl

/-- The time of day, with the sixtieth second for a leap second. -/
theorem readTime?_append (hour minute second leap nanos : Nat) (hhour : hour < 24)
    (hminute : minute < 60) (hsecond : second < 60) (hleap : leap = 0 ∨ leap = 1 ∧ second = 59)
    (hnanos : nanos < 1000000000) {s : List Char}
    (hs : ∀ c ∈ s.head?, digitValue? c = none ∧ c ≠ '.') :
    readTime? (padded 2 hour ++ ':' :: padded 2 minute ++ ':' :: padded 2 (second + leap) ++
        fractionChars nanos ++ s)
      = some ((hour * 3600 + minute * 60 + second, nanos + leap * 1000000000), s) := by
  have hcolon : Text.isBlank ':' = false := by decide
  have hvalid : hour < 24 ∧ minute < 60 ∧ second + leap ≤ 60 := ⟨hhour, hminute, by omega⟩
  have hdiv : (second + leap) / 60 = leap := by omega
  have hparts : hour < 100 ∧ minute < 100 ∧ second + leap < 100 := by omega
  simp only [readTime?, List.append_assoc, List.cons_append, readPart?_padded hparts.1,
    readPart?_padded hparts.2.1, readPart?_padded hparts.2.2, readMark?_cons _ hcolon,
    readFraction?_fractionChars hnanos hs, Option.bind_eq_bind, Option.bind_some, if_pos hvalid,
    hdiv, Nat.add_sub_cancel]

/-! ## Timestamps -/

/-- A time that can be written: its year is one that can be, and it has more nanoseconds than a second
    only in a leap second. -/
structure Writable (t : Timestamp) : Prop where
  year_bounds : Date.years.1 ≤ t.date.year ∧ t.date.year ≤ Date.years.2
  nanos_bounds : t.nanos < 1000000000 ∨ t.nanos < 2000000000 ∧ t.secondOfDay % 60 = 59

theorem secondOfDay_lt (t : Timestamp) : t.secondOfDay < 86400 := by
  have hlt := Int.fmod_lt_of_pos t.seconds (by decide : (0 : Int) < 86400)
  have hnonneg := Int.fmod_nonneg_of_pos t.seconds (by decide : (0 : Int) < 86400)
  unfold secondOfDay
  omega

/-- The seconds are those of the days before and those of the day. -/
theorem seconds_eq (t : Timestamp) : t.date.toDays * 86400 + t.secondOfDay = t.seconds := by
  have hsplit := Int.mul_fdiv_add_fmod t.seconds 86400
  have hnonneg := Int.fmod_nonneg_of_pos t.seconds (by decide : (0 : Int) < 86400)
  rw [date, Date.toDays_ofDays, secondOfDay]
  omega

/-- **The text of a timestamp denotes the timestamp.** -/
theorem ofText?_toText {t : Timestamp} (h : t.Writable) : ofText? t.toText = some t := by
  obtain ⟨hyear, hnanos⟩ := h
  have hdate : t.date.isValid = true := Date.isValid_ofDays hyear
  obtain ⟨-, hmonth⟩ := Date.month_ofDays (t.seconds.fdiv 86400)
  obtain ⟨-, hday⟩ := Date.day_ofDays (t.seconds.fdiv 86400)
  have hlength : Date.daysInMonth t.date.year t.date.month ≤ 31 := by
    unfold Date.daysInMonth
    repeat' split
    all_goals decide
  have hsecond := t.secondOfDay_lt
  have hseconds := t.seconds_eq
  have hread := readDate?_append (d := t.date) (hmonth.trans_lt (by decide))
    ((hday.trans hlength).trans_lt (by decide))
  have htime := readTime?_append t.hour t.minute (t.secondOfDay % 60) (t.nanos / 1000000000)
    (t.nanos % 1000000000) (by unfold hour; omega) (by unfold minute; omega) (by omega) (by omega)
    (by omega) (s := ['Z']) (by simp [digitValue?])
  have hback : t.hour * 3600 + t.minute * 60 + t.secondOfDay % 60 = t.secondOfDay := by
    unfold hour minute
    omega
  have hnanos' : t.nanos % 1000000000 + t.nanos / 1000000000 * 1000000000 = t.nanos := by omega
  rw [hback, hnanos'] at htime
  have hchars : t.chars = (yearChars t.date.year ++ '-' :: padded 2 t.date.month ++ '-' ::
      padded 2 t.date.day ++ ('T' :: (padded 2 t.hour ++ ':' :: padded 2 t.minute ++ ':' ::
        padded 2 (t.secondOfDay % 60 + t.nanos / 1000000000) ++
        fractionChars (t.nanos % 1000000000) ++ ['Z']))) := by
    simp [chars, clockChars]
  have hsame : (⟨t.date.toDays * 86400 + t.secondOfDay - 0, t.nanos⟩ : Timestamp) = t := by
    rw [hseconds, Int.sub_zero]
  rw [ofText?, toText, String.toList_ofList, hchars, hread]
  simp only [Option.bind_eq_bind, Option.bind_some, readSeparator?, htime]
  simp only [show trimLeft ['Z'] = ['Z'] from rfl, readOffset?, Option.bind_some, hsame, hdate]
  rfl

/-! ## Times that can be written -/

theorem decimalFrom_lt {s : List Char} (value : Nat) {n : Nat} (h : Text.decimalFrom value s = some n) :
    n < (value + 1) * 10 ^ s.length := by
  induction s generalizing value with
  | nil =>
    obtain rfl := Option.some.inj h
    simp
  | cons c s ih =>
    obtain ⟨d, hd, h⟩ := Option.bind_eq_some_iff.1 h
    obtain ⟨e, he, rfl⟩ := Text.digitChar_of_isDigitChar (c := c) (by simp [IsDigitChar, hd])
    obtain rfl : e = d := by
      rw [Text.digitValue?_natDigitChar he] at hd
      exact Option.some.inj hd
    calc n < (value * 10 + e + 1) * 10 ^ s.length := ih _ h
      _ ≤ ((value + 1) * 10) * 10 ^ s.length := Nat.mul_le_mul_right _ (by omega)
      _ = (value + 1) * 10 ^ (s.length + 1) := by rw [Nat.mul_assoc, Nat.pow_succ']

theorem decimal?_lt {s : List Char} {n : Nat} (h : decimal? s = some n) : n < 10 ^ s.length := by
  cases s with
  | nil => cases h
  | cons c s => simpa using decimalFrom_lt 0 h

/-- A fraction is less than a second. -/
theorem lt_of_readFraction? {s rest : List Char} {n : Nat} (h : readFraction? s = some (n, rest)) :
    n < 1000000000 := by
  unfold readFraction? at h
  split at h
  · rename_i s
    obtain ⟨value, hvalue, heq⟩ := Option.map_eq_some_iff.1 h
    obtain ⟨rfl, -⟩ := Prod.mk.inj heq
    generalize hkept : (s.takeWhile fun c => (digitValue? c).isSome).take 9 = kept at hvalue
    have hnine : kept.length ≤ 9 := by
      rw [← hkept, List.length_take]
      omega
    calc value * Nat.pow 10 (9 - kept.length)
        < 10 ^ kept.length * Nat.pow 10 (9 - kept.length) :=
          Nat.mul_lt_mul_of_pos_right (decimal?_lt hvalue) (Nat.pow_pos (by decide))
      _ = 10 ^ (kept.length + (9 - kept.length)) := (Nat.pow_add ..).symm
      _ = 1000000000 := by
        rw [Nat.add_sub_cancel' hnine]
        rfl
  · obtain ⟨rfl, -⟩ := Prod.mk.inj (Option.some.inj h)
    decide

/-- A time of day has more nanoseconds than a second only in its last second of a minute. -/
theorem nanos_of_readTime? {s rest : List Char} {seconds nanos : Nat}
    (h : readTime? s = some ((seconds, nanos), rest)) :
    nanos < 1000000000 ∨ nanos < 2000000000 ∧ seconds % 60 = 59 := by
  unfold readTime? at h
  obtain ⟨⟨hour, s⟩, -, h⟩ := Option.bind_eq_some_iff.1 h
  obtain ⟨s, -, h⟩ := Option.bind_eq_some_iff.1 h
  obtain ⟨⟨minute, s⟩, -, h⟩ := Option.bind_eq_some_iff.1 h
  obtain ⟨s, -, h⟩ := Option.bind_eq_some_iff.1 h
  obtain ⟨⟨second, s⟩, -, h⟩ := Option.bind_eq_some_iff.1 h
  obtain ⟨⟨fraction, s⟩, hfraction, h⟩ := Option.bind_eq_some_iff.1 h
  have hlt := lt_of_readFraction? hfraction
  simp only at h
  split at h
  · have hleap : second / 60 = 0 ∨ second / 60 = 1 ∧ second = 60 := by omega
    simp only [Option.some.injEq, Prod.mk.injEq] at h
    rcases hleap with hleap | ⟨hleap, rfl⟩ <;> omega
  · cases h

/-- Offsets are whole minutes. -/
theorem offset_of_readOffset? {s rest : List Char} {offset : Int}
    (h : readOffset? s = some (offset, rest)) : offset % 60 = 0 := by
  have hhours : ∀ {s rest : List Char} {n : Nat}, readHours? s = some (n, rest) → n % 60 = 0 := by
    intro s rest n h
    unfold readHours? at h
    obtain ⟨⟨hours, s⟩, -, h⟩ := Option.bind_eq_some_iff.1 h
    obtain ⟨⟨minutes, s⟩, -, h⟩ := Option.bind_eq_some_iff.1 h
    simp only at h
    split at h
    · simp only [Option.some.injEq, Prod.mk.injEq] at h
      omega
    · cases h
  unfold readOffset? at h
  split at h
  · cases h
    rfl
  · cases h
    rfl
  · obtain ⟨⟨n, left⟩, hn, heq⟩ := Option.map_eq_some_iff.1 h
    have := hhours hn
    simp only [Prod.mk.injEq] at heq
    omega
  · obtain ⟨⟨n, left⟩, hn, heq⟩ := Option.map_eq_some_iff.1 h
    have := hhours hn
    simp only [Prod.mk.injEq] at heq
    omega
  · obtain ⟨⟨n, left⟩, hn, heq⟩ := Option.map_eq_some_iff.1 h
    have := hhours hn
    simp only [Prod.mk.injEq] at heq
    omega
  · split at h
    · cases h
      rfl
    · cases h
  · cases h

/-- **What a text denotes can be written.** -/
theorem writable_of_ofText? {text : String} {t : Timestamp} (h : ofText? text = some t) :
    t.Writable := by
  unfold ofText? at h
  obtain ⟨⟨date, s⟩, -, h⟩ := Option.bind_eq_some_iff.1 h
  obtain ⟨s, -, h⟩ := Option.bind_eq_some_iff.1 h
  obtain ⟨⟨⟨seconds, nanos⟩, s⟩, htime, h⟩ := Option.bind_eq_some_iff.1 h
  obtain ⟨⟨offset, s⟩, hoffset, h⟩ := Option.bind_eq_some_iff.1 h
  have hnanos := nanos_of_readTime? htime
  have hminutes := offset_of_readOffset? hoffset
  simp only at h
  split at h
  · rename_i hvalid
    cases h
    simp only [Bool.and_eq_true, Date.isValid, decide_eq_true_eq] at hvalid
    refine ⟨⟨hvalid.1.2.1.1.1.1.1, hvalid.1.2.1.1.1.1.2⟩, ?_⟩
    have hsplit := Int.mul_fdiv_add_fmod (date.toDays * 86400 + seconds - offset) 86400
    have hnonneg := Int.fmod_nonneg_of_pos (date.toDays * 86400 + seconds - offset)
      (by decide : (0 : Int) < 86400)
    simp only [secondOfDay]
    omega
  · cases h

/-- The nanoseconds up to the year 10000. -/
def nanosLimit : Nat := 253402300800000000000

/-- **What a clock shows before the year 10000 can be written.** -/
theorem writable_ofNanos {ns : Nat} (h : ns < nanosLimit) : (ofNanos ns).Writable := by
  unfold nanosLimit at h
  have hdays : (ofNanos ns).seconds.fdiv 86400 = (ns / 1000000000 : Int) / 86400 :=
    Int.fdiv_eq_ediv_of_nonneg _ (by decide)
  have hyear : 0 ≤ (ofNanos ns).date.year ∧ (ofNanos ns).date.year ≤ 9999 :=
    Date.year_ofDays (by omega) (by omega)
  refine ⟨⟨le_trans (by decide) hyear.1, hyear.2.trans (by decide)⟩, Or.inl ?_⟩
  simp only [ofNanos]
  omega

/-- The limit is the beginning of the year 10000. -/
example : (ofNanos nanosLimit).date = ⟨10000, 1, 1⟩ := by decide

end Timestamp

end Floorplan
