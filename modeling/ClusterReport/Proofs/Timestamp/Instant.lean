/-
**When a point in time is.**

A point in time keeps the offset in which it was written, so that one instant has many written
forms.  What orders points in time is the second that they fall into, counted in universal time from
the first day of the year zero on, and in it the fraction.  A leap second has no number of its own:
it prolongs the second before it, in which the fraction then passes one.  Where offsets do not come
in, this is the order of what is written, from the year down to the fraction.

Main definitions:

* `ClusterReport.Timestamp.dayNumber` — the number of a date;
* `ClusterReport.Timestamp.instant` — the second of universal time, and how far into it;
* `ClusterReport.Timestamp.written` — the fields of a point in time, from the year down.

Main results:

* `ClusterReport.Timestamp.dayNumber_lt_iff` — days are numbered in the order of their dates;
* `ClusterReport.Timestamp.instant_lt_iff` — **with one offset, instants are in the order of what is
  written**;
* `ClusterReport.Timestamp.isProper_of_ofText?` — which is so for all points in time that are read.
-/

import ClusterReport.Timestamp
import Mathlib.Data.Prod.Lex

set_option relaxedAutoImplicit false
set_option autoImplicit false

namespace ClusterReport.Timestamp

/-! ### Days -/

def daysInYear (year : Nat) : Nat := if isLeapYear year then 366 else 365

def daysBeforeYear : Nat → Nat
  | 0 => 0
  | year + 1 => daysBeforeYear year + daysInYear year

/-- The days of a year before a month; the first month is number one. -/
def daysBeforeMonth (year : Nat) : Nat → Nat
  | 0 => 0
  | 1 => 0
  | month + 2 => daysBeforeMonth year (month + 1) + daysInMonth year (month + 1)

/-- The number of a date. -/
def dayNumber (year month day : Nat) : Nat :=
  daysBeforeYear year + daysBeforeMonth year month + day

theorem daysBeforeYear_add_le {year later : Nat} (h : year < later) :
    daysBeforeYear year + daysInYear year ≤ daysBeforeYear later := by
  induction later with
  | zero => exact absurd h (Nat.not_lt_zero year)
  | succ later ih =>
      rcases Nat.lt_succ_iff_lt_or_eq.1 h with h | rfl
      · exact (ih h).trans (Nat.le_add_right _ _)
      · exact le_rfl

theorem daysBeforeMonth_add_le (year : Nat) {month later : Nat} (hmonth : 1 ≤ month)
    (h : month < later) :
    daysBeforeMonth year month + daysInMonth year month ≤ daysBeforeMonth year later := by
  induction later with
  | zero => exact absurd h (Nat.not_lt_zero month)
  | succ later ih =>
      obtain ⟨later, rfl⟩ := Nat.exists_eq_add_of_le' (Nat.le_of_lt_succ h |> hmonth.trans)
      rcases Nat.lt_succ_iff_lt_or_eq.1 h with h | rfl
      · exact (ih h).trans (Nat.le_add_right _ _)
      · exact le_rfl

theorem daysBeforeMonth_thirteen (year : Nat) : daysBeforeMonth year 13 = daysInYear year := by
  simp only [daysBeforeMonth, daysInMonth, daysInYear]
  cases isLeapYear year <;> rfl

theorem isDate_iff {year month day : Nat} :
    isDate year month day = true ↔
      (1 ≤ month ∧ month ≤ 12) ∧ 1 ≤ day ∧ day ≤ daysInMonth year month := by
  simp [isDate, and_assoc]

theorem daysBeforeMonth_add_day_le {year month day : Nat} (h : isDate year month day = true) :
    daysBeforeMonth year month + day ≤ daysInYear year := by
  obtain ⟨⟨hmonth, hmonth'⟩, -, hday⟩ := isDate_iff.1 h
  rw [← daysBeforeMonth_thirteen]
  exact (Nat.add_le_add_left hday _).trans
    (daysBeforeMonth_add_le year hmonth (Nat.lt_succ_of_le hmonth'))

/-- **Days are numbered in the order of their dates.** -/
theorem dayNumber_lt_iff {year month day year' month' day' : Nat}
    (h : isDate year month day = true) (h' : isDate year' month' day' = true) :
    dayNumber year month day < dayNumber year' month' day' ↔
      [year, month, day] < [year', month', day'] := by
  simp only [List.cons_lt_cons_iff, List.not_lt_nil, and_false, or_false, dayNumber]
  obtain ⟨⟨hmonth, -⟩, hday, hlast⟩ := isDate_iff.1 h
  obtain ⟨⟨hmonth', -⟩, hday', hlast'⟩ := isDate_iff.1 h'
  have hyear := daysBeforeMonth_add_day_le h
  have hyear' := daysBeforeMonth_add_day_le h'
  rcases Nat.lt_trichotomy year year' with hlt | rfl | hgt
  · have hbefore := daysBeforeYear_add_le hlt
    omega
  · rcases Nat.lt_trichotomy month month' with hlt | rfl | hgt
    · have hbefore := daysBeforeMonth_add_le year hmonth hlt
      omega
    · omega
    · have hbefore := daysBeforeMonth_add_le year hmonth' hgt
      omega
  · have hbefore := daysBeforeYear_add_le hgt
    omega

/-! ### Instants -/

/-- The second of universal time that a point in time falls into; a leap second falls into the one
before it. -/
def seconds (t : Timestamp) : Int :=
  (((dayNumber t.year t.month t.day : Int) * 24 + t.hour) * 60 + t.minute - t.offset) * 60
    + min t.second 59

/-- How far into its second a point in time is. -/
def fraction (t : Timestamp) : Nat :=
  if t.second = 60 then 1000000000 + t.nanosecond else t.nanosecond

/-- The second of universal time, and how far into it. -/
def instant (t : Timestamp) : Int ×ₗ Nat := toLex (t.seconds, t.fraction)

/-- The fields of a point in time, from the year down. -/
def written (t : Timestamp) : List Nat :=
  [t.year, t.month, t.day, t.hour, t.minute, t.second, t.nanosecond]

/-- A date that exists, and a time of day. -/
structure IsProper (t : Timestamp) : Prop where
  date : isDate t.year t.month t.day = true
  hour : t.hour ≤ 23
  minute : t.minute ≤ 59
  second : t.second ≤ 60
  nanosecond : t.nanosecond < 1000000000

/-- **With one offset, instants are in the order of what is written.** -/
theorem instant_lt_iff {s t : Timestamp} (hs : s.IsProper) (ht : t.IsProper)
    (hoffset : s.offset = t.offset) : s.instant < t.instant ↔ s.written < t.written := by
  have hday := dayNumber_lt_iff hs.date ht.date
  have hday' := dayNumber_lt_iff ht.date hs.date
  obtain ⟨-, hhour, hminute, hsecond, hnanosecond⟩ := hs
  obtain ⟨-, hhour', hminute', hsecond', hnanosecond'⟩ := ht
  simp only [instant, Prod.Lex.toLex_lt_toLex, seconds, fraction, written, List.cons_lt_cons_iff,
    List.not_lt_nil, and_false, or_false] at hday hday' ⊢
  generalize dayNumber s.year s.month s.day = day, dayNumber t.year t.month t.day = day' at *
  rcases Nat.lt_trichotomy day day' with hlt | heq | hgt
  · exact iff_of_true (by omega) (by omega)
  · -- on one day the time of day decides
    have hdate : s.year = t.year ∧ s.month = t.month ∧ s.day = t.day := by omega
    clear hday hday'
    split_ifs <;> omega
  · exact iff_of_false (by omega) (by omega)

theorem takeFraction?_lt {s rest : List Char} {nanosecond : Nat}
    (h : takeFraction? s = some (nanosecond, rest)) : nanosecond < 1000000000 := by
  unfold takeFraction? at h
  split at h
  case h_1 s =>
    obtain ⟨n, hn, h⟩ := Option.bind_eq_some_iff.1 h
    split at h
    case isTrue => cases h
    case isFalse =>
      cases h
      unfold Integer.natOf? at hn
      split at hn
      case isTrue hdigits =>
        cases hn
        have hlt := Integer.digitsValue_lt (List.all_eq_true.1 (Bool.and_eq_true_iff.1 hdigits).2)
        -- nine digits are kept
        exact hlt.trans_le (Nat.pow_le_pow_right (by decide) (List.length_take_le _ _))
      case isFalse => cases hn
  case h_2 =>
    cases h
    decide

/-- What is read as a point in time is one. -/
theorem isProper_of_ofText? {s : List Char} {t : Timestamp} (h : ofText? s = some t) :
    t.IsProper := by
  simp only [ofText?, Option.bind_eq_bind, Option.bind_eq_some_iff] at h
  obtain ⟨⟨year, s⟩, -, _, -, ⟨month, s⟩, -, _, -, ⟨day, s⟩, -, _, -, ⟨hour, s⟩, -, _, -,
    ⟨minute, s⟩, -, _, -, ⟨second, s⟩, -, ⟨nanosecond, s⟩, hfraction, offset, -, h⟩ := h
  split at h
  case isFalse => cases h
  case isTrue hproper =>
    cases h
    simp only [Bool.and_eq_true, decide_eq_true_eq] at hproper
    obtain ⟨⟨⟨hdate, hhour⟩, hminute⟩, hsecond⟩ := hproper
    exact ⟨hdate, hhour, hminute, hsecond, takeFraction?_lt hfraction⟩

/-- An hour later on a clock that is an hour ahead is the same instant. -/
example : (ofText? "2024-03-01T00:30:00+01:00".toList).map instant =
    (ofText? "2024-02-29T23:30:00Z".toList).map instant := by decide +kernel

end ClusterReport.Timestamp
