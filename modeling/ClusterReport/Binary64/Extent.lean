/-
**How far a number reaches.**

Every number has an extent: its value in units, with the infinities at the first magnitude beyond
the format.  Numbers that are not not-a-number are in the order of their extents, so that a
comparison of numbers is a comparison of integers.

Main definitions:

* `ClusterReport.Binary64.extent` — the value of a number, with the infinities at the first
  magnitude beyond the format.

Main results:

* `ClusterReport.Binary64.compare?_eq_extent`, `ge_iff_extent`, `lt_iff_extent`, `eq_iff_extent` —
  **the numeric order by extents**.
-/

import ClusterReport.Binary64.Basic

set_option relaxedAutoImplicit false
set_option autoImplicit false

namespace ClusterReport.Binary64

/-! ### Signs -/

@[simp] theorem withSign_false (magnitude : Nat) : withSign false magnitude = magnitude := rfl

@[simp] theorem withSign_true (magnitude : Nat) : withSign true magnitude = -magnitude := rfl

theorem withSign_not (negative : Bool) (magnitude : Nat) :
    withSign (!negative) magnitude = -withSign negative magnitude := by
  cases negative
  · rfl
  · exact (Int.neg_neg _).symm

/-! ### Extents -/

/-- The value of a number in units; an infinity counts as the first magnitude beyond the format. -/
def extent : Binary64 → Int
  | nonNumber _ _ => 0
  | infinite negative => withSign negative unitsLimit
  | finite negative units _ => withSign negative units

@[simp] theorem isNan_neg (x : Binary64) : (-x).isNan = x.isNan := by
  cases x <;> rfl

theorem extent_neg (x : Binary64) : (-x).extent = -x.extent := by
  cases x with
  | nonNumber _ _ => rfl
  | infinite a =>
      change withSign (!a) unitsLimit = -withSign a unitsLimit
      exact withSign_not a unitsLimit
  | finite a units h => exact withSign_not a units

theorem withSign_bounds (negative : Bool) {units : Nat} (h : Representable units) :
    -(unitsLimit : Int) < withSign negative units ∧ withSign negative units < unitsLimit := by
  have hlt := h.1
  cases negative
  · rw [withSign_false]
    omega
  · rw [withSign_true]
    omega

/-- The numeric order of two numbers is that of their extents. -/
theorem compare?_eq_extent {x y : Binary64} (hx : x.isNan = false) (hy : y.isNan = false) :
    x.compare? y = some (compare x.extent y.extent) := by
  cases x with
  | nonNumber _ _ => cases hx
  | infinite a =>
      cases y with
      | nonNumber _ _ => cases hy
      | infinite b =>
          have hlt : (infinite true).extent < (infinite false).extent := by
            have hlimit := representable_zero.1
            rw [extent, extent, withSign_true, withSign_false]
            omega
          cases a <;> cases b
          · exact congrArg some (Int.compare_eq_eq.2 rfl).symm
          · exact congrArg some (Int.compare_eq_gt.2 hlt).symm
          · exact congrArg some (Int.compare_eq_lt.2 hlt).symm
          · exact congrArg some (Int.compare_eq_eq.2 rfl).symm
      | finite b v hv =>
          have hbounds := withSign_bounds b hv
          cases a
          · exact congrArg some (Int.compare_eq_gt.2 hbounds.2).symm
          · exact congrArg some (Int.compare_eq_lt.2 hbounds.1).symm
  | finite a u hu =>
      cases y with
      | nonNumber _ _ => cases hy
      | infinite b =>
          have hbounds := withSign_bounds a hu
          cases b
          · exact congrArg some (Int.compare_eq_lt.2 hbounds.2).symm
          · exact congrArg some (Int.compare_eq_gt.2 hbounds.1).symm
      | finite b v hv => rfl

/-- The first of two numbers is at least the second when its extent is. -/
theorem ge_iff_extent {x y : Binary64} (hx : x.isNan = false) (hy : y.isNan = false) :
    x.ge y = true ↔ y.extent ≤ x.extent := by
  rw [ge, compare?_eq_extent hx hy, ← Int.compare_ne_lt]
  cases compare x.extent y.extent <;> decide

/-- The first of two numbers is less than the second when its extent is. -/
theorem lt_iff_extent {x y : Binary64} (hx : x.isNan = false) (hy : y.isNan = false) :
    x.lt y = true ↔ x.extent < y.extent := by
  rw [lt, compare?_eq_extent hx hy, ← Int.compare_eq_lt]
  cases compare x.extent y.extent <;> decide

/-- Two numbers are equal when their extents are. -/
theorem eq_iff_extent {x y : Binary64} (hx : x.isNan = false) (hy : y.isNan = false) :
    x.eq y = true ↔ x.extent = y.extent := by
  rw [eq, compare?_eq_extent hx hy, ← Int.compare_eq_eq]
  cases compare x.extent y.extent <;> decide

theorem extent_lt_of_lt {x y : Binary64} (h : x.lt y = true) : x.extent < y.extent := by
  have hx : x.isNan = false := by
    cases x with
    | nonNumber _ _ => cases h
    | infinite _ => rfl
    | finite _ _ _ => rfl
  have hy : y.isNan = false := by
    cases y with
    | nonNumber _ _ => cases x <;> cases h
    | infinite _ => rfl
    | finite _ _ _ => rfl
  exact (lt_iff_extent hx hy).1 h

theorem extent_le (x : Binary64) : x.extent ≤ unitsLimit := by
  have hlimit := representable_zero.1
  cases x with
  | nonNumber _ _ => exact Int.natCast_nonneg unitsLimit
  | infinite negative =>
      cases negative
      · exact Int.le_refl _
      · rw [extent, withSign_true]
        omega
  | finite negative units h => exact Int.le_of_lt (withSign_bounds negative h).2

end ClusterReport.Binary64
