/-
**Where arithmetic is defined.**

Some operations have no result, which is then not-a-number, and not-a-number stays in everything
that is computed from it.  Amounts, which are numbers without a negative sign, are added without
ever getting there, also when a sum runs off to infinity.  A finite amount by an amount is one
unless it is zero by zero.  Taking away a finite number is always possible, and a sum of small
numbers is finite however many there are: next to a great number a small one is rounded away.

Main definitions:

* `ClusterReport.Binary64.IsAmount` — a finite number without a negative sign, or the infinity of
  that sign;
* `ClusterReport.Binary64.IsCount` — a finite amount;
* `ClusterReport.Binary64.AtMost` — a finite number of at most some magnitude.

Main results:

* `ClusterReport.Binary64.isNan_foldl_add` — not-a-number is not lost in a sum;
* `ClusterReport.Binary64.isNan_div_of_zero`, `IsCount.div` — **a count by an amount is an amount
  unless both are zero, which has no quotient**;
* `ClusterReport.Binary64.AtMost.add` — a sum that small numbers do not move.
-/

import ClusterReport.Proofs.Binary64.Rounding
import Mathlib.Algebra.Group.Nat.Defs
import Mathlib.Algebra.Ring.Int.Defs

set_option relaxedAutoImplicit false
set_option autoImplicit false

namespace ClusterReport.Binary64

/-! ### Finite numbers -/

theorem finite_add (a b : Bool) {u v : Nat} (hu : Representable u) (hv : Representable v) :
    finite a u hu + finite b v hv = ofSignedUnits (a && b) (withSign a u + withSign b v) := by
  change add (finite a u hu) (finite b v hv) = _
  rw [add]

theorem finite_false_add {u v : Nat} (hu : Representable u) (hv : Representable v) :
    finite false u hu + finite false v hv = ofRatio false (u + v) 1 := by
  have hsign : (if (u : Int) + v = 0 then false else decide ((u : Int) + v < 0)) = false := by
    rw [decide_eq_false (by omega), ite_self]
  rw [finite_add, withSign_false, withSign_false, ofSignedUnits, Bool.and_false, hsign,
    ← Int.natCast_add, Int.natAbs_natCast]

theorem finite_sub (a b : Bool) {u v : Nat} (hu : Representable u) (hv : Representable v) :
    finite a u hu - finite b v hv = ofSignedUnits (a && !b) (withSign a u + withSign (!b) v) :=
  finite_add a (!b) hu hv

theorem finite_div (a b : Bool) {u v : Nat} (hu : Representable u) (hv : Representable v) :
    finite a u hu / finite b v hv =
      if v = 0 then (if u = 0 then nan true else infinite (a != b))
      else ofRatio (a != b) (u * unitsPerOne) v := rfl

/-! ### Not-a-number -/

@[simp] theorem isNan_roundEven (x : Binary64) : x.roundEven.isNan = x.isNan := by
  cases x with
  | nonNumber _ _ => rfl
  | infinite _ => rfl
  | finite negative units _ => exact isNan_ofRatio _ _ _

theorem isNan_add_left {x : Binary64} (hx : x.isNan = true) (y : Binary64) :
    (x + y).isNan = true := by
  cases x with
  | nonNumber _ _ => rfl
  | infinite _ => cases hx
  | finite _ _ _ => cases hx

theorem isNan_add_right (x : Binary64) {y : Binary64} (hy : y.isNan = true) :
    (x + y).isNan = true := by
  cases y with
  | nonNumber _ _ => cases x <;> rfl
  | infinite _ => cases hy
  | finite _ _ _ => cases hy

theorem isNan_sub_left {x : Binary64} (hx : x.isNan = true) (y : Binary64) :
    (x - y).isNan = true := by
  cases x with
  | nonNumber _ _ => rfl
  | infinite _ => cases hx
  | finite _ _ _ => cases hx

theorem isNan_div_left {x : Binary64} (hx : x.isNan = true) (y : Binary64) :
    (x / y).isNan = true := by
  cases x with
  | nonNumber _ _ => rfl
  | infinite _ => cases hx
  | finite _ _ _ => cases hx

/-- **Not-a-number is not lost in a sum.** -/
theorem isNan_foldl_add {x : Binary64} {xs : List Binary64}
    (h : x.isNan = true ∨ ∃ y ∈ xs, y.isNan = true) : (xs.foldl (· + ·) x).isNan = true := by
  induction xs generalizing x with
  | nil => simpa using h
  | cons y rest ih =>
      refine ih ?_
      rcases h with hx | ⟨z, hz, hnan⟩
      · exact .inl (isNan_add_left hx y)
      · rcases List.mem_cons.1 hz with rfl | hz
        · exact .inl (isNan_add_right x hnan)
        · exact .inr ⟨z, hz, hnan⟩

theorem toInt64_of_isNan {x : Binary64} (hx : x.isNan = true) : x.toInt64 = 0 := by
  cases x with
  | nonNumber _ _ => rfl
  | infinite _ => cases hx
  | finite _ _ _ => cases hx

/-! ### Zeros -/

theorem eq_zero_iff {x : Binary64} : x.eq (zero false) = true ↔ ∃ negative, x = zero negative := by
  constructor
  · intro h
    cases x with
    | nonNumber _ _ => cases h
    | infinite negative => cases negative <;> cases h
    | finite negative units hrep =>
        rw [eq_iff_extent rfl rfl, extent, zero, extent, withSign_false] at h
        have hunits : units = 0 := by
          cases negative
          · rw [withSign_false] at h
            omega
          · rw [withSign_true] at h
            omega
        subst hunits
        exact ⟨negative, rfl⟩
  · rintro ⟨negative, rfl⟩
    cases negative <;> rfl

/-- **Zero by zero has no quotient.** -/
theorem isNan_div_of_zero {x y : Binary64} (hx : x.eq (zero false) = true)
    (hy : y.eq (zero false) = true) : (x / y).isNan = true := by
  obtain ⟨a, rfl⟩ := eq_zero_iff.1 hx
  obtain ⟨b, rfl⟩ := eq_zero_iff.1 hy
  rfl

/-! ### Amounts -/

/-- The number is finite or infinite, and has no negative sign. -/
def IsAmount (x : Binary64) : Prop := x.isNan = false ∧ x.isNegative = false

/-- The number is finite and has no negative sign. -/
def IsCount (x : Binary64) : Prop := x.isFinite = true ∧ x.isNegative = false

theorem isAmount_zero : (zero false).IsAmount := ⟨rfl, rfl⟩

theorem isAmount_ofRatio (num den : Nat) : (ofRatio false num den).IsAmount := by
  unfold ofRatio
  split <;> exact ⟨rfl, rfl⟩

theorem IsCount.isAmount {x : Binary64} (hx : x.IsCount) : x.IsAmount := by
  cases x with
  | nonNumber _ _ => cases hx.1
  | infinite _ => cases hx.1
  | finite _ _ _ => exact ⟨rfl, hx.2⟩

theorem IsAmount.eq_finite_or {x : Binary64} (hx : x.IsAmount) :
    (∃ units h, x = finite false units h) ∨ x = infinite false := by
  obtain ⟨hnan, hsign⟩ := hx
  cases x with
  | nonNumber _ _ => cases hnan
  | infinite negative =>
      cases hsign
      exact .inr rfl
  | finite negative units h =>
      cases hsign
      exact .inl ⟨units, h, rfl⟩

/-- Amounts are added without a way to not-a-number. -/
theorem IsAmount.add {x y : Binary64} (hx : x.IsAmount) (hy : y.IsAmount) : (x + y).IsAmount := by
  rcases hx.eq_finite_or with ⟨u, hu, rfl⟩ | rfl
  · rcases hy.eq_finite_or with ⟨v, hv, rfl⟩ | rfl
    · rw [finite_false_add]
      exact isAmount_ofRatio _ _
    · exact ⟨rfl, rfl⟩
  · rcases hy.eq_finite_or with ⟨v, hv, rfl⟩ | rfl
    · exact ⟨rfl, rfl⟩
    · exact ⟨rfl, rfl⟩

/-- **A count by an amount is an amount, unless both are zero.** -/
theorem IsCount.div {x y : Binary64} (hx : x.IsCount) (hy : y.IsAmount)
    (h : ¬ (x.eq (zero false) = true ∧ y.eq (zero false) = true)) : (x / y).IsAmount := by
  obtain ⟨hx, hxsign⟩ := hx
  obtain ⟨hy, hysign⟩ := hy
  cases x with
  | nonNumber _ _ => cases hx
  | infinite _ => cases hx
  | finite a u hu =>
      cases hxsign
      cases y with
      | nonNumber _ _ => cases hy
      | infinite b => cases hysign; exact ⟨rfl, rfl⟩
      | finite b v hv =>
          cases hysign
          rw [finite_div, Bool.bne_false]
          by_cases hv0 : v = 0
          · have hu0 : u ≠ 0 := by
              rintro rfl
              subst hv0
              exact h ⟨rfl, rfl⟩
            rw [if_pos hv0, if_neg hu0]
            exact ⟨rfl, rfl⟩
          · rw [if_neg hv0]
            exact isAmount_ofRatio _ _

/-! ### Differences and quotients -/

/-- A quotient by a finite number other than zero is a number. -/
theorem isNan_div {x y : Binary64} (hx : x.isNan = false) (hy : y.isFinite = true)
    (hzero : y.eq (zero false) ≠ true) : (x / y).isNan = false := by
  cases y with
  | nonNumber _ _ => cases hy
  | infinite _ => cases hy
  | finite b v hv =>
      cases x with
      | nonNumber _ _ => cases hx
      | infinite _ => rfl
      | finite a u hu =>
          have hv0 : v ≠ 0 := by
            rintro rfl
            exact hzero (eq_zero_iff.2 ⟨b, rfl⟩)
          rw [finite_div, if_neg hv0]
          exact isNan_ofRatio _ _ _

/-- A finite number can be taken away from any number. -/
theorem isNan_sub {x y : Binary64} (hx : x.isNan = false) (hy : y.isFinite = true) :
    (x - y).isNan = false := by
  cases y with
  | nonNumber _ _ => cases hy
  | infinite _ => cases hy
  | finite b v hv =>
      cases x with
      | nonNumber _ _ => cases hx
      | infinite _ => rfl
      | finite a u hu =>
          rw [finite_sub]
          exact isNan_ofRatio _ _ _

/-! ### Small numbers -/

/-- Numbers of ones that are not far beyond the integers of 64 bits are within the format. -/
theorem mul_unitsPerOne_lt_unitsLimit {n : Nat} (h : n ≤ 2 ^ 130) :
    n * unitsPerOne < unitsLimit := by
  have hbits : 130 + 1074 < 2098 := by decide
  unfold unitsPerOne unitsLimit
  -- the exponents are not to be computed with
  generalize 1074 = one at *
  generalize 2098 = limit at *
  calc n * 2 ^ one ≤ 2 ^ 130 * 2 ^ one := Nat.mul_le_mul_right _ h
    _ = 2 ^ (130 + one) := (Nat.pow_add 2 130 one).symm
    _ < 2 ^ limit := Nat.pow_lt_pow_right Nat.one_lt_two hbits

/-- The number is finite and at most so many ones away from zero. -/
def AtMost (x : Binary64) (n : Nat) : Prop :=
  x.isFinite = true ∧ x.signedUnits.natAbs ≤ n * unitsPerOne

theorem atMost_zero (negative : Bool) (n : Nat) : (zero negative).AtMost n := by
  refine ⟨rfl, ?_⟩
  cases negative <;> exact Nat.zero_le _

theorem atMost_ofRatio (negative : Bool) {num bound n : Nat} (h : num ≤ bound)
    (hbound : nearestUnits bound 1 ≤ n * unitsPerOne) (hn : n * unitsPerOne < unitsLimit) :
    (ofRatio negative num 1).AtMost n := by
  have hunits : nearestUnits num 1 ≤ n * unitsPerOne :=
    Nat.le_trans (nearestUnits_mono Nat.one_pos h) hbound
  rw [ofRatio, dif_pos (Nat.lt_of_le_of_lt hunits hn)]
  refine ⟨rfl, ?_⟩
  cases negative <;> simpa [signedUnits] using hunits

theorem atMost_ofInt {n : Int} (h : n.natAbs ≤ 2 ^ 70) : (ofInt n).AtMost (2 ^ 70) :=
  atMost_ofRatio _ (Nat.mul_le_mul_right unitsPerOne h) (by decide +kernel)
    (mul_unitsPerOne_lt_unitsLimit (by decide))

/-- Numbers that are rounded away next to a great one do not carry a sum beyond it. -/
theorem AtMost.add {x y : Binary64} {m n : Nat} (hx : x.AtMost m) (hy : y.AtMost n)
    (hsum : nearestUnits (m * unitsPerOne + n * unitsPerOne) 1 ≤ m * unitsPerOne)
    (hm : m * unitsPerOne < unitsLimit) : (x + y).AtMost m := by
  obtain ⟨hxfinite, hxunits⟩ := hx
  obtain ⟨hyfinite, hyunits⟩ := hy
  cases x with
  | nonNumber _ _ => cases hxfinite
  | infinite _ => cases hxfinite
  | finite a u hu =>
      cases y with
      | nonNumber _ _ => cases hyfinite
      | infinite _ => cases hyfinite
      | finite b v hv =>
          rw [finite_add]
          refine atMost_ofRatio _ (Nat.le_trans (Int.natAbs_add_le _ _) ?_) hsum hm
          exact Nat.add_le_add hxunits hyunits

end ClusterReport.Binary64
