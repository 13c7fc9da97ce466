/-
**The order of scalars and of cells.**

A scalar has a place: its kind, how far out it lies if it is a number that is not finite, on which
side of the integers of 64 bits it lies, its exact value in units, and its word if it is a text.
Scalars compare as their places do, component by component, so that their order is total and
transitive whatever mixture of integers, binary numbers, truth values and texts is compared; the
order of cells inherits this.

Main definitions:

* `ClusterReport.Scalar.reach`, `ClusterReport.Scalar.side`, `ClusterReport.Scalar.units`,
  `ClusterReport.Scalar.word` — with `ClusterReport.Scalar.rank` the components of the place of a
  scalar;
* `ClusterReport.Scalar.comparePlace` — the lexicographic order of places.

Main results:

* `ClusterReport.Scalar.compareIntFloat_eq` — integers compare with binary numbers by exact value;
* `ClusterReport.Scalar.compare_eq_comparePlace` — **scalars compare as their places**;
* the orders of scalars and of cells are total and transitive, as instances of `Std.TransCmp`.
-/

import ClusterReport.Cell
import ClusterReport.Proofs.Binary64.Truncation
import ClusterReport.Scalar

set_option relaxedAutoImplicit false
set_option autoImplicit false

universe u

namespace ClusterReport

open Std (OrientedCmp ReflCmp TransCmp)

/-! ### The place of a number -/

namespace Binary64

/-- How far out a number lies: `0` for finite ones, beyond them the infinities, and beyond the
infinity of its sign not-a-number. -/
def reach : Binary64 → Int
  | nonNumber negative _ => if negative then -2 else 2
  | infinite negative => if negative then -1 else 1
  | finite .. => 0

/-- The side of the integers of 64 bits on which a value lies. -/
def sideOf (units : Int) : Int :=
  if 9223372036854775808 * (unitsPerOne : Int) ≤ units then 1
  else if units < -(9223372036854775808 * (unitsPerOne : Int)) then -1
  else 0

/-- The side of the integers of 64 bits on which a finite number lies. -/
def side : Binary64 → Int
  | finite negative units _ => sideOf (withSign negative units)
  | _ => 0

/-- The value of a finite number in units; not-a-number counts its payload outward. -/
def place : Binary64 → Int
  | nonNumber negative payload => withSign negative payload
  | x => x.signedUnits

theorem sideOf_mono {u v : Int} (h : u ≤ v) : sideOf u ≤ sideOf v := by
  unfold sideOf
  generalize 9223372036854775808 * (unitsPerOne : Int) = limit
  grind

/-- The side of a value decides nothing that the value itself would not. -/
theorem compare_sideOf_then (u v : Int) :
    (compare (sideOf u) (sideOf v)).then (compare u v) = compare u v := by
  rcases Int.lt_trichotomy u v with hlt | rfl | hgt
  · rw [Int.compare_eq_lt.2 hlt]
    rcases Int.lt_or_eq_of_le (sideOf_mono (Int.le_of_lt hlt)) with hside | hside
    · rw [Int.compare_eq_lt.2 hside]
      rfl
    · rw [Int.compare_eq_eq.2 hside]
      rfl
  · rw [Int.compare_eq_eq.2 rfl, Int.compare_eq_eq.2 rfl]
    rfl
  · rw [Int.compare_eq_gt.2 hgt]
    rcases Int.lt_or_eq_of_le (sideOf_mono (Int.le_of_lt hgt)) with hside | hside
    · rw [Int.compare_eq_gt.2 hside]
      rfl
    · rw [Int.compare_eq_eq.2 hside.symm]
      rfl

theorem compare_mul_unitsPerOne (m n : Int) :
    compare (m * (unitsPerOne : Int)) (n * (unitsPerOne : Int)) = compare m n := by
  have h : (0 : Int) < (unitsPerOne : Int) := Int.natCast_pos.2 unitsPerOne_pos
  rcases Int.lt_trichotomy m n with hlt | heq | hgt
  · rw [Int.compare_eq_lt.2 hlt, Int.compare_eq_lt.2 (Int.mul_lt_mul_of_pos_right hlt h)]
  · rw [heq, Int.compare_eq_eq.2 rfl, Int.compare_eq_eq.2 rfl]
  · rw [Int.compare_eq_gt.2 hgt, Int.compare_eq_gt.2 (Int.mul_lt_mul_of_pos_right hgt h)]

end Binary64

namespace Scalar

open Binary64

theorem compareFloat_eq (x y : Binary64) :
    compareFloat x y = (Ord.compare x.reach y.reach).then
      ((Ord.compare x.side y.side).then (Ord.compare x.place y.place)) := by
  -- only two finite numbers have a value to compare; elsewhere the signs decide
  cases x with
  | nonNumber a p =>
      cases y with
      | nonNumber b q => cases a <;> cases b <;> rfl
      | infinite b => cases a <;> cases b <;> rfl
      | finite b v hv => cases a <;> cases b <;> rfl
  | infinite a =>
      cases y with
      | nonNumber b q => cases a <;> cases b <;> rfl
      | infinite b => cases a <;> cases b <;> rfl
      | finite b v hv => cases a <;> rfl
  | finite a u hu =>
      cases y with
      | nonNumber b q => cases a <;> cases b <;> rfl
      | infinite b => cases b <;> rfl
      | finite b v hv => exact (compare_sideOf_then _ _).symm

/-! ### Integers and numbers -/

theorem extent_int64Limit :
    int64Limit.extent = 9223372036854775808 * (unitsPerOne : Int) := by
  have hrep : Representable (9223372036854775808 * unitsPerOne) :=
    ⟨by decide +kernel, 1, 1137, by decide, by decide +kernel⟩
  have habs : (9223372036854775808 : Int).natAbs = 9223372036854775808 := rfl
  rw [int64Limit, ofInt, extent_ofRatio, habs, nearestUnits_one hrep,
    Nat.min_eq_left (Nat.le_of_lt hrep.1), decide_eq_false (by decide), withSign_false,
    Int.natCast_mul, Nat.cast_ofNat]

/-- The range checks of the comparison as bounds on the extent. -/
theorem compareIntFloat_of_isNan_eq_false {x : Binary64} (hx : x.isNan = false) (n : Int) :
    compareIntFloat n x =
      if 9223372036854775808 * (unitsPerOne : Int) ≤ x.extent then .lt
      else if x.extent < -(9223372036854775808 * (unitsPerOne : Int)) then .gt
      else (Ord.compare n x.trunc.toInt64).then
        (((zero false).compare? (x - x.trunc)).getD .eq) := by
  have hnan : int64Limit.isNan = false := isNan_ofInt _
  have hhigh := ge_iff_extent hx hnan
  have hlow := lt_iff_extent hx ((isNan_neg int64Limit).trans hnan)
  rw [extent_neg] at hlow
  rw [extent_int64Limit] at hhigh hlow
  unfold compareIntFloat
  rw [hx]
  simp only [Bool.false_eq_true, if_false, hhigh, hlow]

theorem compareIntFloat_finite (n : Int) (negative : Bool) {units : Nat}
    (h : Representable units) : compareIntFloat n (finite negative units h) =
      (Ord.compare 0 (sideOf (withSign negative units))).then
        (Ord.compare (n * (unitsPerOne : Int)) (withSign negative units)) := by
  have hone : (0 : Int) < (unitsPerOne : Int) := Int.natCast_pos.2 unitsPerOne_pos
  rw [compareIntFloat_of_isNan_eq_false rfl, toInt64_trunc_finite, compare?_zero_sub_trunc]
  unfold sideOf
  rw [extent]
  split
  case isTrue hhigh => rfl
  case isFalse hhigh =>
    split
    case isTrue hlow => rfl
    case isFalse hlow =>
      -- within the range the integer part is exact, and the fraction is less than one
      rw [clampInt64_whole unitsPerOne_pos (Int.not_lt.1 hlow) (Int.not_le.1 hhigh),
        Option.getD_some]
      have hfraction := withSign_mod_bounds negative units unitsPerOne_pos
      rw [compare_then_fraction hfraction.1 hfraction.2, ← withSign_eq_mul_add_mod]
      rfl

/-- **Integers compare with binary numbers by side and exact value.** -/
theorem compareIntFloat_eq (n : Int) (x : Binary64) :
    compareIntFloat n x = (Ord.compare 0 x.reach).then
      ((Ord.compare 0 x.side).then (Ord.compare (n * (unitsPerOne : Int)) x.place)) := by
  cases x with
  | nonNumber a p => cases a <;> rfl
  | infinite a =>
      have hlimit : 9223372036854775808 * (unitsPerOne : Int) < (unitsLimit : Int) := by
        decide +kernel
      have hone : (0 : Int) < (unitsPerOne : Int) := Int.natCast_pos.2 unitsPerOne_pos
      rw [compareIntFloat_of_isNan_eq_false rfl, extent]
      cases a
      · rw [withSign_false, if_pos (Int.le_of_lt hlimit)]
        rfl
      · rw [withSign_true, if_neg (by omega), if_pos (by omega)]
        rfl
  | finite negative units h => exact compareIntFloat_finite n negative h

/-! ### The place of a scalar -/

/-- How far out a scalar lies among those of its kind. -/
def reach : Scalar → Int
  | float x => x.reach
  | _ => 0

/-- The side of the integers of 64 bits on which a scalar lies; the integers are in the middle. -/
def side : Scalar → Int
  | float x => x.side
  | _ => 0

/-- The exact value of a number in units, as far as it has one; a truth value counts as a
number. -/
def units : Scalar → Int
  | bool b => b.toInt
  | int n => n * (Binary64.unitsPerOne : Int)
  | float x => x.place
  | text _ => 0

/-- The word of a text. -/
def word : Scalar → String
  | text s => s
  | _ => ""

/-- The order of places: kind, reach, side, value, word. -/
def comparePlace : Scalar → Scalar → Ordering :=
  compareLex (compareOn rank) (compareLex (compareOn reach)
    (compareLex (compareOn side) (compareLex (compareOn units) (compareOn word))))

instance : TransCmp comparePlace :=
  inferInstanceAs (TransCmp (compareLex (compareOn rank) (compareLex (compareOn reach)
    (compareLex (compareOn side) (compareLex (compareOn units) (compareOn word))))))

theorem comparePlace_number {a b : Scalar} (ha : a.isNumber = true) (hb : b.isNumber = true) :
    comparePlace a b = (Ord.compare a.reach b.reach).then
      ((Ord.compare a.side b.side).then (Ord.compare a.units b.units)) := by
  have hplace : comparePlace a b = (Ord.compare a.rank b.rank).then
      ((Ord.compare a.reach b.reach).then ((Ord.compare a.side b.side).then
        ((Ord.compare a.units b.units).then (Ord.compare a.word b.word)))) := rfl
  have hnumber : ∀ c : Scalar, c.isNumber = true → c.rank = 1 ∧ c.word = "" := by
    intro c hc
    cases c with
    | bool b => exact absurd hc (by simp [isNumber])
    | int n => exact ⟨rfl, rfl⟩
    | float x => exact ⟨rfl, rfl⟩
    | text s => exact absurd hc (by simp [isNumber])
  obtain ⟨hrank, hword⟩ := hnumber a ha
  obtain ⟨hrank', hword'⟩ := hnumber b hb
  rw [hplace, hrank, hrank', hword, hword', Std.ReflOrd.compare_self (α := String),
    Ordering.then_eq]
  rfl

/-- **Scalars compare as their places.** -/
theorem compare_eq_comparePlace (a b : Scalar) : compare a b = comparePlace a b := by
  cases a with
  | bool a =>
      cases b with
      | bool b => cases a <;> cases b <;> rfl
      | int n => rfl
      | float y => rfl
      | text t => rfl
  | int m =>
      cases b with
      | bool b => rfl
      | int n =>
          rw [comparePlace_number rfl rfl]
          exact (Binary64.compare_mul_unitsPerOne m n).symm
      | float y =>
          rw [comparePlace_number rfl rfl]
          exact compareIntFloat_eq m y
      | text t => rfl
  | float x =>
      cases b with
      | bool b => rfl
      | int n =>
          rw [comparePlace_number rfl rfl]
          change (compareIntFloat n x).swap = _
          rw [compareIntFloat_eq, Ordering.swap_then, Ordering.swap_then, ← OrientedCmp.eq_swap,
            ← OrientedCmp.eq_swap, ← OrientedCmp.eq_swap]
          rfl
      | float y =>
          rw [comparePlace_number rfl rfl]
          exact compareFloat_eq x y
      | text t => rfl
  | text s =>
      cases b with
      | bool b => rfl
      | int n => rfl
      | float y => rfl
      | text t => rfl

/-- The order of scalars is total and transitive. -/
instance : TransCmp compare where
  eq_swap {a b} := by
    rw [compare_eq_comparePlace, compare_eq_comparePlace]
    exact OrientedCmp.eq_swap
  isLE_trans {a b c} hab hbc := by
    rw [compare_eq_comparePlace] at hab hbc ⊢
    exact TransCmp.isLE_trans hab hbc

end Scalar

/-! ### Cells -/

namespace Cell

variable {α : Type u} {cmp : α → α → Ordering}

/-- The order of cells is total and transitive if the order of their values is. -/
instance [TransCmp cmp] : TransCmp (Cell.compare cmp) where
  eq_swap {a b} := by
    cases a with
    | value x =>
        cases b with
        | value y =>
            change cmp x y = (cmp y x).swap
            exact OrientedCmp.eq_swap
        | absent => rfl
        | error e => rfl
    | absent => cases b <;> rfl
    | error e =>
        cases b with
        | value y => rfl
        | absent => rfl
        | error e' =>
            change Ord.compare e e' = (Ord.compare e' e).swap
            exact OrientedCmp.eq_swap
  isLE_trans {a b c} hab hbc := by
    -- the kinds of cells can only go up from `a` to `c`
    cases a with
    | value x =>
        cases c with
        | value z =>
            cases b with
            | value y => exact @TransCmp.isLE_trans α cmp _ x y z hab hbc
            | absent => exact absurd hbc (by simp [compare])
            | error e => exact absurd hbc (by simp [compare])
        | absent => rfl
        | error e => rfl
    | absent =>
        cases c with
        | value z =>
            cases b with
            | value y => exact absurd hab (by simp [compare])
            | absent => exact absurd hbc (by simp [compare])
            | error e => exact absurd hbc (by simp [compare])
        | absent => rfl
        | error e => rfl
    | error e =>
        cases b with
        | value y => exact absurd hab (by simp [compare])
        | absent => exact absurd hab (by simp [compare])
        | error e' =>
            cases c with
            | value z => exact absurd hbc (by simp [compare])
            | absent => exact absurd hbc (by simp [compare])
            | error e'' => exact @TransCmp.isLE_trans String Ord.compare _ e e' e'' hab hbc

end Cell
end ClusterReport
