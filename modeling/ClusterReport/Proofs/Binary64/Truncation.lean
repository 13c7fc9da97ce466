/-
**Integer part and fraction.**

The integer part of a number of the format is a number of the format, and what is left when it is
taken away is computed with its exact sign: a difference other than zero is not rounded to zero.  An
integer is therefore compared with a number by comparing it with the integer part first and, where
they are equal, zero with the fraction.

Main results:

* `ClusterReport.Binary64.trunc_finite` — the integer part of a finite number;
* `ClusterReport.Binary64.compare?_zero_ofSignedUnits` — **rounding keeps the sign of a
  difference**;
* `ClusterReport.Binary64.compare_then_fraction` — integer part and fraction decide like the value.
-/

import ClusterReport.Proofs.Binary64.Whole
import Mathlib.Tactic.Linarith

set_option relaxedAutoImplicit false
set_option autoImplicit false

namespace ClusterReport.Binary64

/-! ### The integer part -/

theorem representable_whole {units : Nat} (h : Representable units) :
    Representable (units / unitsPerOne * unitsPerOne) := by
  obtain ⟨hlimit, significand, scale, hsignificand, hunits⟩ := h
  obtain ⟨ones, hones⟩ := exists_unitsPerOne_eq
  by_cases hscale : ones ≤ scale
  · -- a multiple of one has no fraction
    have hdvd : unitsPerOne ∣ units := by
      rw [hunits, hones]
      exact Nat.dvd_mul_left_of_dvd (Nat.pow_dvd_pow 2 hscale) _
    rw [Nat.div_mul_cancel hdvd]
    exact ⟨hlimit, significand, scale, hsignificand, hunits⟩
  · have hpow : Nat.pow 2 scale ≤ unitsPerOne := by
      rw [hones]
      exact Nat.pow_le_pow_right (by decide) (by omega)
    have hlt : units < unitsPerOne * 2 ^ 53 := by
      calc units
          _ = significand * Nat.pow 2 scale := hunits
          _ ≤ significand * unitsPerOne := Nat.mul_le_mul_left _ hpow
          _ < 2 ^ 53 * unitsPerOne := Nat.mul_lt_mul_of_pos_right hsignificand unitsPerOne_pos
          _ = unitsPerOne * 2 ^ 53 := Nat.mul_comm _ _
    exact representable_ones (Nat.div_lt_of_lt_mul hlt)

/-- The integer part of a finite number is not rounded. -/
theorem trunc_finite (negative : Bool) {units : Nat} (h : Representable units) :
    (finite negative units h).trunc =
      finite negative (units / unitsPerOne * unitsPerOne) (representable_whole h) :=
  ofRatio_one _ _

/-- The integer part is read as the integer that it is, clamped to 64 bits. -/
theorem toInt64_trunc_finite (negative : Bool) {units : Nat} (h : Representable units) :
    (finite negative units h).trunc.toInt64 =
      Integer.clampInt64 (withSign negative (units / unitsPerOne)) := by
  rw [trunc_finite, toInt64_finite, Nat.mul_div_cancel _ unitsPerOne_pos]

/-- A magnitude is a multiple of another one and a remainder, with the sign of both. -/
theorem withSign_eq_mul_add_mod (negative : Bool) (units one : Nat) :
    withSign negative units =
      withSign negative (units / one) * one + withSign negative (units % one) := by
  have hunits : ((units / one * one : Nat) : Int) + (units % one : Nat) = units := by
    rw [← Int.natCast_add, Nat.mul_comm, Nat.div_add_mod]
  rw [← withSign_mul]
  cases negative
  · simp only [withSign_false]
    exact hunits.symm
  · simp only [withSign_true]
    rw [← hunits, Int.neg_add]

theorem withSign_mod_bounds (negative : Bool) (units : Nat) {one : Nat} (hone : 0 < one) :
    -(one : Int) < withSign negative (units % one) ∧ withSign negative (units % one) < one := by
  have hlt := Nat.mod_lt units hone
  generalize units % one = rest at hlt ⊢
  cases negative
  · rw [withSign_false]
    omega
  · rw [withSign_true]
    omega

theorem withSign_sub_mul (negative : Bool) (units one : Nat) :
    withSign negative units + withSign (!negative) (units / one * one) =
      withSign negative (units % one) := by
  have hunits := withSign_eq_mul_add_mod negative units one
  rw [withSign_not, withSign_mul]
  omega

theorem clampInt64_whole {negative : Bool} {units one : Nat} (hone : 0 < one)
    (hlow : -(9223372036854775808 * (one : Int)) ≤ withSign negative units)
    (hhigh : withSign negative units < 9223372036854775808 * (one : Int)) :
    Integer.clampInt64 (withSign negative (units / one)) = withSign negative (units / one) := by
  have hquotient : units / one * one ≤ units := Nat.div_mul_le_self units one
  generalize units / one = whole at hquotient ⊢
  refine Integer.clampInt64_of_fits _ ((Integer.fitsInt64_iff _).2 ?_)
  cases negative
  · rw [withSign_false] at *
    have hlt : whole < 9223372036854775808 :=
      Nat.lt_of_mul_lt_mul_right (Nat.lt_of_le_of_lt hquotient (by omega))
    omega
  · rw [withSign_true] at *
    have hle : whole ≤ 9223372036854775808 :=
      Nat.le_of_mul_le_mul_right (Nat.le_trans hquotient (by omega)) hone
    omega

/-! ### The fraction -/

/-- **Rounding keeps the sign of a difference.** -/
theorem compare?_zero_ofSignedUnits (zeroSign : Bool) (units : Int) :
    (zero false).compare? (ofSignedUnits zeroSign units) = some (compare 0 units) := by
  have hlimit := representable_zero.1
  unfold ofSignedUnits
  rw [compare?_eq_extent rfl (isNan_ofRatio _ _ _), extent_ofRatio]
  have hzero : (zero false).extent = 0 := rfl
  rw [hzero, Option.some.injEq]
  rcases Int.lt_trichotomy units 0 with hlt | rfl | hgt
  · have hpos := nearestUnits_pos Nat.one_pos (show 1 ≤ units.natAbs by omega)
    rw [if_neg (Int.ne_of_lt hlt), decide_eq_true hlt, withSign_true, Int.compare_eq_gt.2 hlt,
      Int.compare_eq_gt.2 (by omega)]
  · rw [Int.natAbs_zero, nearestUnits_zero, Nat.zero_min]
    cases zeroSign <;> rfl
  · have hpos := nearestUnits_pos Nat.one_pos (show 1 ≤ units.natAbs by omega)
    rw [if_neg (Int.ne_of_gt hgt), decide_eq_false (by omega), withSign_false,
      Int.compare_eq_lt.2 hgt, Int.compare_eq_lt.2 (by omega)]

/-- What is left of a finite number without its integer part is compared with zero as exactly as
the fraction. -/
theorem compare?_zero_sub_trunc (negative : Bool) {units : Nat} (h : Representable units) :
    (zero false).compare? (finite negative units h - (finite negative units h).trunc) =
      some (compare 0 (withSign negative (units % unitsPerOne))) := by
  rw [trunc_finite, finite_sub, withSign_sub_mul, compare?_zero_ofSignedUnits]

/-- An integer compares with a value by the value's integer part, and with its fraction where that
is the integer itself. -/
theorem compare_then_fraction {one n whole fraction : Int} (hlow : -one < fraction)
    (hhigh : fraction < one) :
    (compare n whole).then (compare 0 fraction) =
      compare (n * one) (whole * one + fraction) := by
  rcases Int.lt_trichotomy n whole with hlt | rfl | hgt
  · have hvalue : n * one < whole * one + fraction := by nlinarith
    rw [Int.compare_eq_lt.2 hlt, Int.compare_eq_lt.2 hvalue]
    rfl
  · rw [Int.compare_eq_eq.2 rfl]
    change compare 0 fraction = _
    rcases Int.lt_trichotomy 0 fraction with hpos | hzero | hneg
    · rw [Int.compare_eq_lt.2 hpos, Int.compare_eq_lt.2 (by omega)]
    · rw [← hzero, Int.add_zero, Int.compare_eq_eq.2 rfl, Int.compare_eq_eq.2 rfl]
    · rw [Int.compare_eq_gt.2 hneg, Int.compare_eq_gt.2 (by omega)]
  · have hvalue : whole * one + fraction < n * one := by nlinarith
    rw [Int.compare_eq_gt.2 hgt, Int.compare_eq_gt.2 hvalue]
    rfl

end ClusterReport.Binary64
