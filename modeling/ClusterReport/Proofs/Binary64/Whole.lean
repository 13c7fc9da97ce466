/-
**Whole numbers in binary.**

A number of the format is its own nearest one, so arithmetic that comes out at a number of the
format is exact.  Whole numbers below `2 ^ 53` are such numbers: they are added and read back
without loss, however long the sum, as long as no total on the way leaves that range.  What has been
rounded to whole numbers is whole, unless it is infinite.

Main definitions:

* `ClusterReport.Binary64.IsWhole` — a number with the value of an integer.

Main results:

* `ClusterReport.Binary64.ofRatio_one` — a number of the format is not rounded;
* `ClusterReport.Binary64.IsWhole.add`, `IsWhole.foldl_add` — **whole numbers add up exactly while
  their totals are small**;
* `ClusterReport.Binary64.isWhole_roundEven_or` — what is rounded is whole or infinite;
* `ClusterReport.Binary64.IsWhole.toInt64` — the integer that a whole number is read as.
-/

import ClusterReport.Proofs.Binary64.Defined
import Mathlib.Data.List.Forall2

set_option relaxedAutoImplicit false
set_option autoImplicit false

namespace ClusterReport.Binary64

/-! ### Numbers of the format -/

theorem spacing_dvd {units : Nat} (h : Representable units) : spacing units ∣ units := by
  obtain ⟨-, significand, scale, hlt, hunits⟩ := h
  rcases Nat.eq_zero_or_pos units with rfl | hpos
  · exact Nat.dvd_zero _
  · have hbound : units < 2 ^ (53 + scale) := by
      rw [hunits, Nat.pow_add]
      exact Nat.mul_lt_mul_of_pos_right hlt (Nat.two_pow_pos scale)
    have hlog : units.log2 < 53 + scale := (Nat.log2_lt (Nat.ne_of_gt hpos)).2 hbound
    have hscale : spacing units ∣ Nat.pow 2 scale := Nat.pow_dvd_pow 2 (by omega)
    rw [hunits] at hscale ⊢
    exact Nat.dvd_mul_left_of_dvd hscale significand

theorem nearestUnits_one_of_dvd {units : Nat} (h : spacing units ∣ units) :
    nearestUnits units 1 = units := by
  obtain ⟨count, hcount⟩ := h
  have hquot : divToEven units (spacing units) = count := by
    have hmul := divToEven_mul count (spacing units) (spacing_pos units)
    rwa [Nat.mul_comm, ← hcount] at hmul
  rw [nearestUnits, Nat.div_one, Nat.one_mul, hquot, Nat.mul_comm, ← hcount]

theorem nearestUnits_one {units : Nat} (h : Representable units) :
    nearestUnits units 1 = units :=
  nearestUnits_one_of_dvd (spacing_dvd h)

/-- A number of the format is not rounded. -/
theorem ofRatio_one (negative : Bool) {units : Nat} (h : Representable units) :
    ofRatio negative units 1 = finite negative units h := by
  have hlimit : nearestUnits units 1 < unitsLimit := by
    rw [nearestUnits_one h]
    exact h.1
  rw [ofRatio, dif_pos hlimit]
  congr 1
  exact nearestUnits_one h

/-- One is a power of two, of which nothing but this matters in most proofs. -/
theorem exists_unitsPerOne_eq : ∃ scale, unitsPerOne = Nat.pow 2 scale := by
  unfold unitsPerOne
  generalize 1074 = scale
  exact ⟨scale, rfl⟩

theorem representable_ones {n : Nat} (h : n < 2 ^ 53) : Representable (n * unitsPerOne) := by
  obtain ⟨scale, hscale⟩ := exists_unitsPerOne_eq
  refine ⟨?_, n, scale, h, by rw [hscale]⟩
  exact mul_unitsPerOne_lt_unitsLimit (Nat.le_trans (Nat.le_of_lt h) (by decide))

theorem pow_dvd_spacing {n : Nat} (h : 2 ^ 53 ≤ n) (scale : Nat) :
    2 ^ scale ∣ spacing (n * 2 ^ scale) := by
  have hpow : 2 ^ (53 + scale) ≤ n * 2 ^ scale := by
    rw [Nat.pow_add]
    exact Nat.mul_le_mul_right _ h
  have hne : n * 2 ^ scale ≠ 0 := Nat.ne_of_gt (Nat.lt_of_lt_of_le (Nat.two_pow_pos _) hpow)
  have hlog : 53 + scale ≤ (n * 2 ^ scale).log2 := (Nat.le_log2 hne).2 hpow
  exact Nat.pow_dvd_pow 2 (by omega)

/-- A rounded number of ones is a number of ones. -/
theorem unitsPerOne_dvd_nearestUnits (n : Nat) :
    unitsPerOne ∣ nearestUnits (n * unitsPerOne) 1 := by
  by_cases h : n < 2 ^ 53
  · rw [nearestUnits_one (representable_ones h)]
    exact Nat.dvd_mul_left _ _
  · -- from there on the spacing is more than one
    obtain ⟨scale, hscale⟩ := exists_unitsPerOne_eq
    rw [hscale, Nat.pow_eq]
    unfold nearestUnits
    dsimp only
    rw [Nat.div_one]
    exact Nat.dvd_mul_left_of_dvd (pow_dvd_spacing (Nat.not_lt.1 h) scale) _

/-! ### Signs -/

theorem withSign_mul (negative : Bool) (m n : Nat) :
    withSign negative (m * n) = withSign negative m * n := by
  cases negative
  · rw [withSign_false, withSign_false, Int.natCast_mul]
  · rw [withSign_true, withSign_true, Int.natCast_mul, Int.neg_mul]

@[simp] theorem natAbs_withSign (negative : Bool) (magnitude : Nat) :
    (withSign negative magnitude).natAbs = magnitude := by
  cases negative <;> simp

theorem withSign_natAbs (zeroSign : Bool) (n : Int) :
    withSign (if n = 0 then zeroSign else n < 0) n.natAbs = n := by
  rcases Int.lt_trichotomy n 0 with hlt | rfl | hgt
  · rw [if_neg (Int.ne_of_lt hlt), decide_eq_true hlt, withSign_true]
    omega
  · cases zeroSign <;> rfl
  · rw [if_neg (Int.ne_of_gt hgt), decide_eq_false (Int.not_lt.2 (Int.le_of_lt hgt)),
      withSign_false]
    omega

theorem withSign_eq_mul {negative : Bool} {magnitude k : Nat} {n : Int} (hk : 0 < k)
    (h : withSign negative magnitude = n * k) :
    magnitude = n.natAbs * k ∧ withSign negative n.natAbs = n := by
  have hmagnitude : magnitude = n.natAbs * k := by
    have habs := congrArg Int.natAbs h
    rwa [natAbs_withSign, Int.natAbs_mul, Int.natAbs_natCast] at habs
  rw [hmagnitude, withSign_mul] at h
  exact ⟨hmagnitude, Int.eq_of_mul_eq_mul_right (Int.natCast_ne_zero.2 (Nat.ne_of_gt hk)) h⟩

/-! ### Whole numbers -/

/-- An integer number of units that is a number of the format is not rounded. -/
theorem ofSignedUnits_eq (zeroSign : Bool) {units : Int} (h : Representable units.natAbs) :
    ofSignedUnits zeroSign units =
      finite (if units = 0 then zeroSign else units < 0) units.natAbs h :=
  ofRatio_one _ h

theorem toInt64_finite (negative : Bool) {units : Nat} (h : Representable units) :
    (finite negative units h).toInt64 =
      Integer.clampInt64 (withSign negative (units / unitsPerOne)) := rfl

/-- The number is finite and has the value of an integer. -/
def IsWhole (x : Binary64) (n : Int) : Prop :=
  x.isFinite = true ∧ x.signedUnits = n * unitsPerOne

theorem isWhole_finite {negative : Bool} {units : Nat} {h : Representable units} {n : Int} :
    (finite negative units h).IsWhole n ↔ withSign negative units = n * unitsPerOne :=
  ⟨fun hx => hx.2, fun hx => ⟨rfl, hx⟩⟩

theorem isWhole_zero (negative : Bool) : (zero negative).IsWhole 0 := by
  rw [zero, isWhole_finite, Int.zero_mul]
  cases negative <;> rfl

theorem isWhole_ofRatio (negative : Bool) {n : Nat} (h : n < 2 ^ 53) :
    (ofRatio negative (n * unitsPerOne) 1).IsWhole (withSign negative n) := by
  rw [ofRatio_one negative (representable_ones h), isWhole_finite, withSign_mul]

namespace IsWhole

variable {x y : Binary64} {m n : Int}

theorem exists_eq (h : x.IsWhole n) :
    ∃ negative units hrep, x = finite negative units hrep ∧ units = n.natAbs * unitsPerOne ∧
      withSign negative n.natAbs = n := by
  cases x with
  | nonNumber _ _ => exact absurd h.1 (by simp [isFinite])
  | infinite _ => exact absurd h.1 (by simp [isFinite])
  | finite negative units hrep =>
      exact ⟨negative, units, hrep, rfl, withSign_eq_mul unitsPerOne_pos (isWhole_finite.1 h)⟩

/-- **Whole numbers are added exactly if the sum is small.** -/
theorem add (hx : x.IsWhole m) (hy : y.IsWhole n) (h : (m + n).natAbs < 2 ^ 53) :
    (x + y).IsWhole (m + n) := by
  obtain ⟨a, u, hu, rfl, -⟩ := hx.exists_eq
  obtain ⟨b, v, hv, rfl, -⟩ := hy.exists_eq
  have hrep : Representable ((m + n) * (unitsPerOne : Int)).natAbs := by
    rw [Int.natAbs_mul, Int.natAbs_natCast]
    exact representable_ones h
  rw [finite_add, isWhole_finite.1 hx, isWhole_finite.1 hy, ← Int.add_mul,
    ofSignedUnits_eq _ hrep, isWhole_finite]
  exact withSign_natAbs _ _

theorem roundEven (hx : x.IsWhole n) (h : n.natAbs < 2 ^ 53) : x.roundEven.IsWhole n := by
  obtain ⟨negative, units, hrep, rfl, hunits, hn⟩ := hx.exists_eq
  have hrounded := isWhole_ofRatio negative h
  rw [hn] at hrounded
  rwa [Binary64.roundEven, hunits, divToEven_mul _ _ unitsPerOne_pos]

/-- A whole number is read as its value, clamped to 64 bits. -/
theorem toInt64 (hx : x.IsWhole n) : x.toInt64 = Integer.clampInt64 n := by
  obtain ⟨negative, units, hrep, rfl, hunits, hn⟩ := hx.exists_eq
  rw [toInt64_finite, hunits, Nat.mul_div_cancel _ unitsPerOne_pos, hn]

/-- **Whole numbers add up exactly while their totals are small.** -/
theorem foldl_add {xs : List Binary64} {ns : List Int} (hx : x.IsWhole m)
    (hxs : List.Forall₂ IsWhole xs ns) (h : ∀ k, (m + (ns.take k).sum).natAbs < 2 ^ 53) :
    (xs.foldl (· + ·) x).IsWhole (m + ns.sum) := by
  induction hxs generalizing x m with
  | nil => simpa using hx
  | @cons y n ys ns hy _ ih =>
      have hstep : (x + y).IsWhole (m + n) := hx.add hy (by simpa using h 1)
      have hrest : ∀ k, (m + n + (ns.take k).sum).natAbs < 2 ^ 53 := fun k => by
        have hk := h (k + 1)
        rwa [List.take_succ_cons, List.sum_cons, ← Int.add_assoc] at hk
      rw [List.foldl_cons, List.sum_cons, ← Int.add_assoc]
      exact ih hstep hrest

end IsWhole

/-- What is rounded to whole numbers is whole or infinite, unless it is not a number. -/
theorem isWhole_roundEven_or {x : Binary64} (hx : x.isNan = false) :
    (∃ n, x.roundEven.IsWhole n) ∨ ∃ negative, x.roundEven = infinite negative := by
  cases x with
  | nonNumber _ _ => cases hx
  | infinite negative => exact .inr ⟨negative, rfl⟩
  | finite negative units hrep =>
      rw [roundEven, ofRatio]
      split
      case isFalse => exact .inr ⟨negative, rfl⟩
      case isTrue h =>
        obtain ⟨count, hcount⟩ := unitsPerOne_dvd_nearestUnits (divToEven units unitsPerOne)
        refine .inl ⟨withSign negative count, isWhole_finite.2 ?_⟩
        rw [hcount, Nat.mul_comm, withSign_mul]

/-- A rounded number that is read as a small integer has the value of that integer. -/
theorem isWhole_of_toInt64 {x : Binary64} (hx : x.isNan = false)
    (h : x.roundEven.toInt64.natAbs < 2 ^ 62) : x.roundEven.IsWhole x.roundEven.toInt64 := by
  rcases isWhole_roundEven_or hx with ⟨n, hn⟩ | ⟨negative, hinf⟩
  · have hclamp := hn.toInt64
    rw [hclamp] at h ⊢
    -- a clamped integer would be a great one
    have hvalue : Integer.clampInt64 n = n := by
      simp only [Integer.clampInt64, Integer.int64Max, Integer.int64Min] at h ⊢
      omega
    rwa [hvalue]
  · rw [hinf] at h
    cases negative <;> exact absurd h (by decide)

end ClusterReport.Binary64
