/-
**Exact values in order.**

An integer denotes itself, and a finite binary number the rational that its units make.  Scalars
that denote numbers are ordered as these numbers are, whatever mixture of integers and binary
numbers is compared and however great they are: no integer is rounded on the way.  Not-a-number has
no value and lies outside of all others, on the side of its sign.  The equality of scalars is what
the order does not tell apart, so that a sorted column has a place for every cell.

Main definitions:

* `ClusterReport.OrdersTotally` — a comparison is a total preorder with a given equality;
* `ClusterReport.Scalar.value?` — the rational number that a scalar denotes.

Main results:

* `ClusterReport.Scalar.compare_of_value` — **numbers compare as what they denote**;
* `ClusterReport.Cell.ordersTotally` — the order of cells is total if that of their values is;
* `ClusterReport.Scalar.orders_exactly` — the order of scalars and of cells of scalars.
-/

import ClusterReport.Proofs.Cell.Order
import Mathlib.Algebra.Order.Field.Rat
import Mathlib.Order.Compare
import Mathlib.Tactic.Positivity

set_option relaxedAutoImplicit false
set_option autoImplicit false

universe u

namespace ClusterReport

open Std (OrientedCmp TransCmp)

/-! ### Total preorders -/

/-- A comparison is a total preorder, and a given equality is its equality. -/
structure OrdersTotally {α : Type u} (cmp : α → α → Ordering) (same : α → α → Bool) : Prop where
  /-- Everything compares equal to itself. -/
  refl : ∀ a, cmp a a = .eq
  /-- The other way around the comparison is reversed. -/
  swap : ∀ a b, cmp b a = (cmp a b).swap
  /-- What is at most each other is equal. -/
  antisymm : ∀ a b, (cmp a b).isLE = true → (cmp b a).isLE = true → same a b = true
  /-- What is at most something is at most what that is at most. -/
  trans : ∀ a b c, (cmp a b).isLE = true → (cmp b c).isLE = true → (cmp a c).isLE = true
  /-- Of any two one is at most the other. -/
  total : ∀ a b, (cmp a b).isLE = true ∨ (cmp b a).isLE = true
  /-- The equality is that of the comparison. -/
  same_iff : ∀ a b, same a b = true ↔ cmp a b = .eq

theorem OrdersTotally.of_transCmp {α : Type u} {cmp : α → α → Ordering} [TransCmp cmp]
    {same : α → α → Bool} (hsame : ∀ a b, same a b = true ↔ cmp a b = .eq) :
    OrdersTotally cmp same where
  refl a := Std.ReflCmp.compare_self
  swap a b := OrientedCmp.eq_swap
  antisymm a b hab hba := by
    rw [@OrientedCmp.eq_swap α cmp _ b a] at hba
    rw [hsame]
    cases h : cmp a b with
    | lt => rw [h] at hba; exact absurd hba (by decide)
    | eq => rfl
    | gt => rw [h] at hab; exact absurd hab (by decide)
  trans a b c := TransCmp.isLE_trans
  total a b := by
    rw [@OrientedCmp.eq_swap α cmp _ b a]
    cases cmp a b with
    | lt => exact .inl rfl
    | eq => exact .inl rfl
    | gt => exact .inr rfl
  same_iff := hsame

namespace Cell

variable {α : Type u} {cmp : α → α → Ordering} {same : α → α → Bool}

theorem same_iff (hsame : ∀ a b, same a b = true ↔ cmp a b = .eq) (a b : Cell α) :
    a.same same b = true ↔ Cell.compare cmp a b = .eq := by
  cases a with
  | value x =>
      cases b with
      | value y => exact hsame x y
      | absent => exact ⟨nofun, nofun⟩
      | error e => exact ⟨nofun, nofun⟩
  | absent => cases b <;> exact ⟨fun h => by cases h <;> rfl, fun h => by cases h <;> rfl⟩
  | error e =>
      cases b with
      | value y => exact ⟨nofun, nofun⟩
      | absent => exact ⟨nofun, nofun⟩
      | error e' =>
          change (e == e') = true ↔ Ord.compare e e' = .eq
          rw [beq_iff_eq, Std.LawfulEqOrd.compare_eq_iff_eq]

/-- **The order of cells is a total preorder if that of their values is.** -/
theorem ordersTotally [TransCmp cmp] (hsame : ∀ a b, same a b = true ↔ cmp a b = .eq) :
    OrdersTotally (Cell.compare cmp) (Cell.same same) :=
  .of_transCmp (same_iff hsame)

end Cell

/-! ### Values -/

/-- The rational number that a finite number denotes. -/
def Binary64.value? (x : Binary64) : Option ℚ :=
  if x.isFinite then some (x.signedUnits / Binary64.unitsPerOne) else none

namespace Scalar

/-- The rational number that a scalar denotes. -/
def value? : Scalar → Option ℚ
  | int n => some n
  | float x => x.value?
  | _ => none

/-- Integers are integers of 64 bits. -/
def IsMachine : Scalar → Prop
  | int n => Integer.fitsInt64 n = true
  | _ => True

theorem eq_units_of_value {a : Scalar} {p : ℚ} (h : a.value? = some p) :
    p = a.units / Binary64.unitsPerOne := by
  have hone : (Binary64.unitsPerOne : ℚ) ≠ 0 :=
    Nat.cast_ne_zero.2 (Nat.ne_of_gt Binary64.unitsPerOne_pos)
  cases a with
  | bool b => cases h
  | text s => cases h
  | int n =>
      have hp : (n : ℚ) = p := Option.some.inj h
      rw [← hp, units, Int.cast_mul, Int.cast_natCast, mul_div_assoc, div_self hone, mul_one]
  | float x =>
      cases x with
      | nonNumber b payload => cases h
      | infinite b => cases h
      | finite b v hv => exact (Option.some.inj h).symm

/-- A scalar that denotes a number is a finite one, on the side where its units lie. -/
theorem place_of_value {a : Scalar} {p : ℚ} (ha : a.IsMachine) (h : a.value? = some p) :
    a.isNumber = true ∧ a.reach = 0 ∧ a.side = Binary64.sideOf a.units := by
  cases a with
  | bool b => cases h
  | text s => cases h
  | int n =>
      have hone : (0 : Int) < (Binary64.unitsPerOne : Int) :=
        Int.natCast_pos.2 Binary64.unitsPerOne_pos
      have hfits := (Integer.fitsInt64_iff n).1 ha
      refine ⟨rfl, rfl, ?_⟩
      rw [units, Binary64.sideOf]
      generalize (Binary64.unitsPerOne : Int) = one at hone ⊢
      have hhigh : n * one < 9223372036854775808 * one :=
        Int.mul_lt_mul_of_pos_right (by omega) hone
      have hlow : -9223372036854775808 * one ≤ n * one :=
        Int.mul_le_mul_of_nonneg_right hfits.1 (Int.le_of_lt hone)
      rw [if_neg (by omega), if_neg (by omega)]
      rfl
  | float x =>
      cases x with
      | nonNumber b payload => cases h
      | infinite b => cases h
      | finite b v hv => exact ⟨rfl, rfl, rfl⟩

theorem compare_eq_compare_div (u v : Int) {one : ℚ} (hone : 0 < one) :
    Ord.compare u v = Ord.compare ((u : ℚ) / one) ((v : ℚ) / one) := by
  rcases Int.lt_trichotomy u v with hlt | rfl | hgt
  · have hdiv : (u : ℚ) / one < (v : ℚ) / one :=
      div_lt_div_of_pos_right (Int.cast_lt.2 hlt) hone
    rw [Int.compare_eq_lt.2 hlt, compare_lt_iff_lt.2 hdiv]
  · rw [Int.compare_eq_eq.2 rfl, compare_eq_iff_eq.2 rfl]
  · have hdiv : (v : ℚ) / one < (u : ℚ) / one :=
      div_lt_div_of_pos_right (Int.cast_lt.2 hgt) hone
    rw [Int.compare_eq_gt.2 hgt, compare_gt_iff_gt.2 hdiv]

/-- **Numbers compare as what they denote.** -/
theorem compare_of_value {a b : Scalar} {p q : ℚ} (ha : a.IsMachine) (hb : b.IsMachine)
    (hp : a.value? = some p) (hq : b.value? = some q) : a.compare b = Ord.compare p q := by
  obtain ⟨hnumber, hreach, hside⟩ := place_of_value ha hp
  obtain ⟨hnumber', hreach', hside'⟩ := place_of_value hb hq
  have hone : (0 : ℚ) < (Binary64.unitsPerOne : ℚ) :=
    Nat.cast_pos.2 Binary64.unitsPerOne_pos
  rw [compare_eq_comparePlace, comparePlace_number hnumber hnumber', hreach, hreach', hside, hside',
    Binary64.compare_sideOf_then, eq_units_of_value hp, eq_units_of_value hq,
    ← compare_eq_compare_div _ _ hone]
  rfl

/-- The integer after `2 ^ 53` is not rounded to it. -/
example : compare (int 9007199254740993) (float (.ofInt 9007199254740992)) = .gt := by
  decide +kernel

/-! ### Beyond the values -/

def isNan : Scalar → Bool
  | float x => x.isNan
  | _ => false

/-- Of two numbers that reach differently far the reach decides. -/
theorem compare_of_reach_lt {a b : Scalar} (ha : a.isNumber = true) (hb : b.isNumber = true)
    (h : a.reach < b.reach) : a.compare b = .lt := by
  rw [compare_eq_comparePlace, comparePlace_number ha hb, Int.compare_eq_lt.2 h]
  rfl

theorem reach_bounds {a : Scalar} (h : a.isNan = false) : -2 < a.reach ∧ a.reach < 2 := by
  cases a with
  | float x =>
      cases x with
      | nonNumber negative payload => cases h
      | infinite negative => cases negative <;> decide
      | finite negative units hunits =>
          change (-2 : Int) < 0 ∧ (0 : Int) < 2
          decide
  | _ =>
      change (-2 : Int) < 0 ∧ (0 : Int) < 2
      decide

/-- The order and the equality of scalars: total, by kind, and exact among numbers. -/
structure OrdersExactly (cmp : Scalar → Scalar → Ordering) (same : Scalar → Scalar → Bool) :
    Prop where
  /-- The comparison is a total preorder, and the equality is its equality. -/
  preorder : OrdersTotally cmp same
  /-- Truth values come first, then numbers, then texts. -/
  kinds : ∀ (b : Bool) (a : Scalar) (s : String), a.isNumber = true →
    cmp (bool b) a = .lt ∧ cmp a (text s) = .lt ∧ cmp (bool b) (text s) = .lt
  /-- Integers of 64 bits and finite numbers compare as the rationals they denote. -/
  exact : ∀ (a b : Scalar) (p q : ℚ), a.IsMachine → b.IsMachine → a.value? = some p →
    b.value? = some q → cmp a b = Ord.compare p q
  /-- Not-a-number lies beyond all other numbers, on the side of its sign. -/
  beyond : ∀ (payload : Nat) (a : Scalar), a.isNumber = true → a.isNan = false →
    cmp (float (.nonNumber true payload)) a = .lt ∧ cmp a (float (.nonNumber false payload)) = .lt

/-- **The order of scalars is a total preorder that is exact among numbers**, and so is that of
cells, with values before what is absent and that before errors. -/
theorem orders_exactly :
    OrdersExactly compare same ∧
      OrdersTotally (Cell.compare compare) (Cell.same same) ∧
      ∀ (a : Scalar) (cause : String),
        Cell.compare compare (.value a) .absent = .lt ∧
        Cell.compare compare .absent (.error cause) = .lt ∧
        Cell.compare compare (.value a) (.error cause) = .lt := by
  have hkinds : ∀ (b : Bool) (a : Scalar) (s : String), a.isNumber = true →
      compare (bool b) a = .lt ∧ compare a (text s) = .lt ∧ compare (bool b) (text s) = .lt := by
    intro b a s ha
    cases a with
    | bool c => cases ha
    | int n => exact ⟨rfl, rfl, rfl⟩
    | float x => exact ⟨rfl, rfl, rfl⟩
    | text t => cases ha
  have hbeyond : ∀ (payload : Nat) (a : Scalar), a.isNumber = true → a.isNan = false →
      compare (float (.nonNumber true payload)) a = .lt ∧
        compare a (float (.nonNumber false payload)) = .lt := by
    intro payload a ha hnan
    obtain ⟨hlow, hhigh⟩ := reach_bounds hnan
    exact ⟨compare_of_reach_lt rfl ha hlow, compare_of_reach_lt ha rfl hhigh⟩
  refine ⟨⟨.of_transCmp same_iff, hkinds, ?_, hbeyond⟩, Cell.ordersTotally same_iff, ?_⟩
  · intro a b p q ha hb hp hq
    exact compare_of_value ha hb hp hq
  · intro a cause
    exact ⟨rfl, rfl, rfl⟩

end Scalar
end ClusterReport
