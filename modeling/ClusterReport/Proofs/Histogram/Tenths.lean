/-
**Deciles and exact tenths.**

An entry of the deciles should be the first bucket at which ten times the counted objects are a
multiple of the total.  The shares are sums of binary tenths, however, and the third of them comes
out above three tenths: a bucket that ends at exactly three tenths of the objects is passed
over.  The seventh and the ninth come out below, and with very many objects a portion one tenth of
an object short of them is rounded up to them.  Of all the portions that up to `2 ^ 50` objects can
make these are the only ones that are misplaced, so that the entries are the exact ones just for the
histograms without a bucket that ends there.

Main definitions:

* `ClusterReport.Histogram.FollowsTenths` — the entries are the first buckets of the exact tenths;
* `ClusterReport.Histogram.IsMisplaced` — the portions that rounding puts on the wrong side.

Main results:

* `ClusterReport.Histogram.exists_deciles_isLeast` — the entries by integers alone;
* `ClusterReport.Histogram.portionAt_ge_iff_tenths` — **all other portions are on the right side**;
* `ClusterReport.Histogram.followsTenths_iff` — **when the entries are the exact ones**.
-/

import ClusterReport.Proofs.Histogram.Decile
import Mathlib.Tactic.IntervalCases

set_option relaxedAutoImplicit false
set_option autoImplicit false

namespace ClusterReport.Histogram

open Binary64

variable {counts : List Nat}

/-! ### Ten entries -/

/-- Up to `2 ^ 52` objects the entries are the first buckets whose portions reach the shares. -/
theorem exists_deciles_isLeast (hpos : 0 < Integer.natSum counts)
    (hsmall : Integer.natSum counts ≤ 2 ^ 52) :
    ∃ found, deciles? counts = some found ∧ found.length = 10 ∧
      ∀ (k : Nat) (h : k < found.length),
        IsLeast {i | (portionAt counts i).ge (shareAt k) = true} found[k] := by
  obtain ⟨found, i, hwalk, hpassed, hdone⟩ :=
    exists_walk_eq counts (Nat.le_trans hsmall (by decide))
  have hlength := hpassed.length_eq hpos hsmall hdone
  refine ⟨found, ?_, hlength, hpassed.first⟩
  rw [deciles?, hwalk, Option.map_some, if_neg (by rw [List.isEmpty_iff_length_eq_zero]; omega)]

/-! ### Misplaced portions -/

/-- The portions that rounding puts on the wrong side of a tenth: three tenths, and with very many
objects what is a tenth of an object less than seven or nine. -/
def IsMisplaced (total counted : Nat) : Prop :=
  10 * counted = 3 * total ∨
    (10 * counted + 1 = 7 * total ∧ 1000799917193444 ≤ total) ∨
    (10 * counted + 1 = 9 * total ∧ 692861481133923 ≤ total)

/-- **All other portions are on the right side of every tenth.** -/
theorem portionAt_ge_iff_tenths (hpos : 0 < Integer.natSum counts)
    (hsmall : Integer.natSum counts ≤ 2 ^ 50) {i : Nat}
    (hplaced : ¬ IsMisplaced (Integer.natSum counts) (countedAt counts i)) {k : Nat} (hk : k < 10) :
    (portionAt counts i).ge (shareAt k) = true ↔
      (k + 1) * Integer.natSum counts ≤ 10 * countedAt counts i := by
  have hle := countedAt_le counts i
  rw [portionAt_eq (by omega)]
  unfold IsMisplaced at hplaced
  generalize Integer.natSum counts = total at *
  generalize countedAt counts i = counted at *
  -- an inequality for each of the ten shares
  interval_cases k <;> rw [portionOf_ge_iff hpos (by omega) hle rfl] <;> dsimp only <;> omega

theorem portionAt_not_ge_three (hpos : 0 < Integer.natSum counts)
    (hsmall : Integer.natSum counts ≤ 2 ^ 50) {i : Nat}
    (h : 10 * countedAt counts i = 3 * Integer.natSum counts) :
    (portionAt counts i).ge (shareAt 2) ≠ true := by
  have hle := countedAt_le counts i
  rw [portionAt_eq (by omega), ne_eq, portionOf_ge_iff hpos (by omega) hle (k := 2) rfl]
  dsimp only
  omega

/-- With very many objects a little less than seven tenths reaches the seventh share. -/
theorem portionAt_ge_seven (hpos : 0 < Integer.natSum counts)
    (hsmall : Integer.natSum counts ≤ 2 ^ 50) {i : Nat}
    (h : 10 * countedAt counts i + 1 = 7 * Integer.natSum counts)
    (hmany : 1000799917193444 ≤ Integer.natSum counts) :
    (portionAt counts i).ge (shareAt 6) = true := by
  have hle := countedAt_le counts i
  rw [portionAt_eq (by omega), portionOf_ge_iff hpos (by omega) hle (k := 6) rfl]
  dsimp only
  omega

theorem portionAt_ge_nine (hpos : 0 < Integer.natSum counts)
    (hsmall : Integer.natSum counts ≤ 2 ^ 50) {i : Nat}
    (h : 10 * countedAt counts i + 1 = 9 * Integer.natSum counts)
    (hmany : 692861481133923 ≤ Integer.natSum counts) :
    (portionAt counts i).ge (shareAt 8) = true := by
  have hle := countedAt_le counts i
  rw [portionAt_eq (by omega), portionOf_ge_iff hpos (by omega) hle (k := 8) rfl]
  dsimp only
  omega

/-! ### Exact tenths -/

/-- The deciles are ten entries, and each is the first bucket up to which ten times the objects are
at least so many times the total. -/
def FollowsTenths (counts : List Nat) : Prop :=
  ∃ found, deciles? counts = some found ∧ found.length = 10 ∧
    ∀ (k : Nat) (h : k < found.length),
      IsLeast {i | (k + 1) * Integer.natSum counts ≤ 10 * countedAt counts i} found[k]

/-- A histogram without a misplaced portion has exact deciles. -/
theorem followsTenths_of_forall (hpos : 0 < Integer.natSum counts)
    (hsmall : Integer.natSum counts ≤ 2 ^ 50)
    (h : ∀ i, ¬ IsMisplaced (Integer.natSum counts) (countedAt counts i)) :
    FollowsTenths counts := by
  obtain ⟨found, hdeciles, hlength, hleast⟩ :=
    exists_deciles_isLeast hpos (Nat.le_trans hsmall (by decide))
  refine ⟨found, hdeciles, hlength, ?_⟩
  intro k hk
  have hsets : {i | (k + 1) * Integer.natSum counts ≤ 10 * countedAt counts i} =
      {i | (portionAt counts i).ge (shareAt k) = true} := by
    ext i
    exact (portionAt_ge_iff_tenths hpos hsmall (h i) (by omega)).symm
  rw [hsets]
  exact hleast k hk

theorem not_followsTenths_of_isMisplaced (hpos : 0 < Integer.natSum counts)
    (hsmall : Integer.natSum counts ≤ 2 ^ 50) {i : Nat}
    (h : IsMisplaced (Integer.natSum counts) (countedAt counts i)) : ¬ FollowsTenths counts := by
  rintro ⟨found, hdeciles, hlength, htenths⟩
  obtain ⟨found', hdeciles', -, hleast⟩ :=
    exists_deciles_isLeast hpos (Nat.le_trans hsmall (by decide))
  have heq : found' = found := Option.some.inj (hdeciles'.symm.trans hdeciles)
  subst heq
  -- the bucket of the misplaced portion is not before the entry, by one of the two measures
  rcases h with hthree | ⟨hseven, hmany⟩ | ⟨hnine, hmany⟩
  · obtain ⟨hmem, hfirst⟩ := htenths 2 (by omega)
    have hbefore : found'[2] ≤ i := hfirst (Nat.le_of_eq hthree.symm)
    have hmono : countedAt counts found'[2] ≤ countedAt counts i := countedAt_mono hbefore
    rw [Set.mem_ofPred_eq] at hmem
    exact portionAt_not_ge_three hpos hsmall (by omega) (hleast 2 (by omega)).1
  · have hmem := (htenths 6 (by omega)).1
    have hbefore : found'[6] ≤ i :=
      (hleast 6 (by omega)).2 (portionAt_ge_seven hpos hsmall hseven hmany)
    have hmono : countedAt counts found'[6] ≤ countedAt counts i := countedAt_mono hbefore
    rw [Set.mem_ofPred_eq] at hmem
    omega
  · have hmem := (htenths 8 (by omega)).1
    have hbefore : found'[8] ≤ i :=
      (hleast 8 (by omega)).2 (portionAt_ge_nine hpos hsmall hnine hmany)
    have hmono : countedAt counts found'[8] ≤ countedAt counts i := countedAt_mono hbefore
    rw [Set.mem_ofPred_eq] at hmem
    omega

/-- **Up to `2 ^ 50` objects the deciles are the exact ones** just when no bucket ends at a
misplaced portion. -/
theorem followsTenths_iff (counts : List Nat) (hpos : 1 ≤ Integer.natSum counts)
    (hsmall : Integer.natSum counts ≤ 2 ^ 50) :
    FollowsTenths counts ↔
      ∀ i, ¬ IsMisplaced (Integer.natSum counts) (countedAt counts i) := by
  constructor
  · intro hfollows i hmisplaced
    exact not_followsTenths_of_isMisplaced hpos hsmall hmisplaced hfollows
  · exact followsTenths_of_forall hpos hsmall

/-- Five objects and five more are within the range, and no bucket of theirs is misplaced. -/
theorem followsTenths_iff_halves :
    (1 ≤ Integer.natSum [5, 5] ∧ Integer.natSum [5, 5] ≤ 2 ^ 50) ∧ FollowsTenths [5, 5] := by
  refine ⟨by decide, (followsTenths_iff [5, 5] (by decide) (by decide)).2 ?_⟩
  intro i hmisplaced
  have hends : countedAt [5, 5] i = 0 ∨ countedAt [5, 5] i = 5 ∨ countedAt [5, 5] i = 10 := by
    match i with
    | 0 => exact .inl rfl
    | 1 => exact .inr (.inl rfl)
    | n + 2 => exact .inr (.inr (by simp [countedAt]))
  have htotal : Integer.natSum [5, 5] = 10 := rfl
  unfold IsMisplaced at hmisplaced
  omega

/-- Three objects and seven more: the third entry is the second bucket, although the first one ends
at three tenths. -/
theorem not_followsTenths_threeSeven :
    1 ≤ Integer.natSum [3, 7] ∧ Integer.natSum [3, 7] ≤ 2 ^ 50 ∧ ¬ FollowsTenths [3, 7] :=
  ⟨by decide, by decide,
    not_followsTenths_of_isMisplaced (i := 1) (by decide) (by decide) (.inl (by decide))⟩

end ClusterReport.Histogram
