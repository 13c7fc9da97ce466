/-
**The shares of the deciles.**

The shares that the deciles look for are sums of tenths, as they come out in binary: the first four
lie above the exact fractions, the last five below, and only the half is exact.  Shares never fall,
so that the loop over them ends for every portion that some share exceeds; they grow up to `2 ^ 50`,
next to which a tenth is rounded away.  A portion is a quotient of two counts that is rounded once;
whether it has reached a share is therefore decided by an inequality between integers.

Main definitions:

* `ClusterReport.Histogram.shareAt` — the share that is looked for after so many others;
* `ClusterReport.Histogram.shareLimit` — the share that no other one exceeds;
* `ClusterReport.Histogram.shareDigits` — the ten shares up to the greatest below one;
* `ClusterReport.Histogram.Counted` — a binary number that counts have added up to.

Main results:

* `ClusterReport.Histogram.passShares_eq`, `passShares_eq_none_iff` — **the loop stops at the first
  share that has not been reached**, and returns nothing if there is none;
* `ClusterReport.Histogram.portionOf_ge_iff` — **a portion has reached a share when an inequality
  between counts holds**;
* `ClusterReport.Histogram.ge_shareLimit_iff` — **a portion has reached every share when it has
  reached `2 ^ 50`**;
* `ClusterReport.Histogram.Counted.add`, `ClusterReport.Histogram.Counted.not_ge_shareLimit` — **a
  portion does not**, however many counts were added up.
-/

import ClusterReport.Histogram.Decile
import ClusterReport.Proofs.Binary64.Ratio

set_option relaxedAutoImplicit false
set_option autoImplicit false

namespace ClusterReport.Histogram

open Binary64

/-! ### Shares -/

/-- The share that is looked for after so many others. -/
def shareAt : Nat → Binary64
  | 0 => tenth
  | k + 1 => shareAt k + tenth

theorem shareAt_succ (k : Nat) : shareAt (k + 1) = shareAt k + tenth := rfl

theorem isAmount_tenth : tenth.IsAmount := ⟨by decide +kernel, by decide +kernel⟩

theorem isAmount_shareAt (k : Nat) : (shareAt k).IsAmount := by
  induction k with
  | zero => exact isAmount_tenth
  | succ k ih => exact ih.add isAmount_tenth

theorem extent_shareAt_mono {j k : Nat} (h : j ≤ k) :
    (shareAt j).extent ≤ (shareAt k).extent := by
  induction h with
  | refl => exact Int.le_refl _
  | @step k _ ih => exact Int.le_trans ih ((isAmount_shareAt k).extent_le_add isAmount_tenth)

/-- The number of units in a sixteenth. -/
def sixteenth : Nat := Nat.pow 2 1070

theorem exists_sixteenth_eq : ∃ scale, sixteenth = 2 ^ scale := by
  unfold sixteenth
  generalize 1070 = scale
  exact ⟨scale, rfl⟩

theorem unitsPerOne_eq : unitsPerOne = 16 * sixteenth := by decide +kernel

theorem tenth_bounds : ((sixteenth + 1 : Nat) : Int) ≤ tenth.extent ∧
    tenth.extent ≤ unitsPerOne := by
  decide +kernel

/-- The first shares are each at least a sixteenth more than the one before. -/
theorem le_extent_shareAt {k : Nat} (hk : k < 2 ^ 53) :
    (((k + 1) * sixteenth : Nat) : Int) ≤ (shareAt k).extent := by
  have htenth : (sixteenth : Int) ≤ tenth.extent := by
    have hmore := tenth_bounds.1
    omega
  have hlimit : 2 ^ 53 * unitsPerOne < unitsLimit := mul_unitsPerOne_lt_unitsLimit (by decide)
  rw [unitsPerOne_eq] at hlimit
  induction k with
  | zero => rwa [Nat.zero_add, Nat.one_mul]
  | succ k ih =>
      have hprevious := ih (by omega)
      have hnext : (k + 1) * sixteenth + sixteenth = (k + 1 + 1) * sixteenth := by ring
      have hexact : nearestUnits ((k + 1) * sixteenth + sixteenth) 1 = (k + 1 + 1) * sixteenth := by
        obtain ⟨scale, hscale⟩ := exists_sixteenth_eq
        rw [hnext, hscale, nearestUnits_one_of_dvd (spacing_mul_pow_dvd (by omega))]
      have hle : (k + 1 + 1) * sixteenth ≤ 2 ^ 53 * sixteenth := Nat.mul_le_mul_right _ (by omega)
      exact (isAmount_shareAt k).le_extent_add isAmount_tenth hprevious htenth
        (Nat.le_of_eq hexact.symm) (by omega)

theorem ge_shareAt_of_le {portion : Binary64} {j k : Nat} (hjk : j ≤ k)
    (h : portion.ge (shareAt k) = true) : portion.ge (shareAt j) = true := by
  cases hnan : portion.isNan with
  | true =>
      cases portion with
      | nonNumber a payload => cases h
      | infinite a => cases hnan
      | finite a u hu => cases hnan
  | false =>
      rw [ge_iff_extent hnan (isAmount_shareAt _).1] at h ⊢
      exact Int.le_trans (extent_shareAt_mono hjk) h

theorem ge_shareAt_eq_false {portion : Binary64} {j k : Nat} (hjk : j ≤ k)
    (h : portion.ge (shareAt j) = false) : portion.ge (shareAt k) = false := by
  by_contra hge
  rw [Bool.not_eq_false] at hge
  rw [ge_shareAt_of_le hjk hge] at h
  cases h

theorem exists_first_not_ge {portion : Binary64} {k : Nat}
    (h : ∃ n, portion.ge (shareAt (k + n)) = false) :
    ∃ n, portion.ge (shareAt (k + n)) = false ∧
      ∀ j, k ≤ j → j < k + n → portion.ge (shareAt j) = true := by
  classical
  refine ⟨Nat.find h, Nat.find_spec h, ?_⟩
  intro j hkj hj
  have hmin := Nat.find_min h (show j - k < Nat.find h by omega)
  rwa [Nat.add_sub_cancel' hkj, Bool.not_eq_false] at hmin

/-! ### Where the shares stop growing -/

/-- The share that no other one exceeds: next to it a tenth is rounded away. -/
def shareLimit : Binary64 := .ofNat (2 ^ 50)

theorem extent_shareLimit : shareLimit.extent = (2 ^ 50 * unitsPerOne : Nat) := by
  rw [shareLimit, ofNat_eq_finite (by decide), extent, withSign_false]

theorem isNan_shareLimit : shareLimit.isNan = false := by
  rw [shareLimit, Binary64.ofNat]
  exact isNan_ofRatio _ _ _

theorem extent_shareAt_le (k : Nat) : (shareAt k).extent ≤ shareLimit.extent := by
  have hlimit : 2 ^ 50 * unitsPerOne < unitsLimit := mul_unitsPerOne_lt_unitsLimit (by decide)
  have htenth : tenth.extent ≤ (tenth.extent.toNat : Int) := Int.self_le_toNat _
  have hone : tenth.extent.toNat ≤ unitsPerOne := Int.toNat_le.2 tenth_bounds.2
  -- what a tenth adds to the limit is less than half the distance to the next number
  have hstall : nearestUnits (2 ^ 50 * unitsPerOne + tenth.extent.toNat) 1 ≤
      2 ^ 50 * unitsPerOne := by decide +kernel
  rw [extent_shareLimit]
  induction k with
  | zero =>
      rw [shareAt]
      omega
  | succ k ih =>
      have hsum := (isAmount_shareAt k).extent_add_le isAmount_tenth ih htenth hlimit (by omega)
      exact Int.le_trans hsum (Int.ofNat_le.2 hstall)

/-- From a number of eighths with 53 digits on a share is at least an eighth more than the one
before. -/
theorem le_extent_shareAt_add {j : Nat} (hj : j ≤ 2 ^ 52) :
    (((2 ^ 52 + j) * (2 * sixteenth) : Nat) : Int) ≤ (shareAt (2 ^ 53 - 1 + j)).extent := by
  have hlimit : 2 ^ 53 * unitsPerOne < unitsLimit := mul_unitsPerOne_lt_unitsLimit (by decide)
  rw [unitsPerOne_eq] at hlimit
  induction j with
  | zero =>
      have hstart := @le_extent_shareAt (2 ^ 53 - 1) (by decide)
      exact Int.le_trans (Int.ofNat_le.2 (by omega)) hstart
  | succ j ih =>
      have hprevious := ih (by omega)
      have hround : (2 ^ 52 + j + 1) * (2 * sixteenth) ≤
          nearestUnits ((2 ^ 52 + j) * (2 * sixteenth) + (sixteenth + 1)) 1 := by
        have hodd : (2 * (2 ^ 52 + j) + 1) * (2 * sixteenth) =
            2 * ((2 ^ 52 + j) * (2 * sixteenth)) + 2 * sixteenth := by ring
        obtain ⟨scale, hscale⟩ := exists_sixteenth_eq
        rw [hscale, ← Nat.pow_succ'] at hodd ⊢
        refine (mul_pow_le_nearestUnits_iff Nat.one_pos (by omega) (by omega)).2 ?_
        rw [Nat.one_mul, hodd, Nat.pow_succ']
        omega
      have hle : (2 ^ 52 + j + 1) * (2 * sixteenth) ≤ 2 ^ 53 * (2 * sixteenth) :=
        Nat.mul_le_mul_right _ (by omega)
      exact (isAmount_shareAt _).le_extent_add isAmount_tenth hprevious tenth_bounds.1 hround
        (Nat.le_trans hle (by omega))

/-- **What has reached the limit has reached every share**, and nothing else has. -/
theorem ge_shareLimit_iff {portion : Binary64} :
    portion.ge shareLimit = true ↔ ∀ k, portion.ge (shareAt k) = true := by
  cases hnan : portion.isNan with
  | true =>
      cases portion with
      | nonNumber a payload => exact iff_of_false nofun fun h => nomatch h 0
      | infinite a => cases hnan
      | finite a u hu => cases hnan
  | false =>
      rw [ge_iff_extent hnan isNan_shareLimit]
      constructor
      · intro h k
        rw [ge_iff_extent hnan (isAmount_shareAt k).1]
        exact Int.le_trans (extent_shareAt_le k) h
      · intro h
        have hlast := h (2 ^ 53 - 1 + 2 ^ 52)
        have hreached := le_extent_shareAt_add (Nat.le_refl (2 ^ 52))
        have hvalue : (2 ^ 52 + 2 ^ 52) * (2 * sixteenth) = 2 ^ 50 * unitsPerOne := by
          rw [unitsPerOne_eq]
          omega
        rw [ge_iff_extent hnan (isAmount_shareAt _).1] at hlast
        rw [hvalue, ← extent_shareLimit] at hreached
        exact Int.le_trans hreached hlast

/-! ### The loop -/

/-- If a tenth does not make a share greater, all further shares are the same. -/
theorem shareAt_eq_of_not_lt {j k : Nat} (h : (shareAt j).lt (shareAt (j + 1)) = false)
    (hjk : j ≤ k) : shareAt k = shareAt j := by
  have hge : (shareAt (j + 1)).extent ≤ (shareAt j).extent := by
    rw [Bool.eq_false_iff, ne_eq, lt_iff_extent (isAmount_shareAt _).1 (isAmount_shareAt _).1] at h
    omega
  have hnext : shareAt (j + 1) = shareAt j :=
    (isAmount_shareAt _).eq_of_extent_eq (isAmount_shareAt _)
      (Int.le_antisymm hge (extent_shareAt_mono (Nat.le_succ j)))
  induction hjk with
  | refl => rfl
  | @step k _ ih => rw [shareAt_succ, ih, ← shareAt_succ, hnext]

theorem passShares_of_ge {portion : Binary64} {k : Nat}
    (h : portion.ge (shareAt k) = true) (hlt : (shareAt k).lt (shareAt (k + 1)) = true)
    (bucket : Nat) (found : List Nat) : passShares portion bucket (shareAt k) found =
      passShares portion bucket (shareAt (k + 1)) (found ++ [bucket]) := by
  rw [shareAt] at hlt ⊢
  conv_lhs => rw [passShares, if_pos h, if_pos hlt]

theorem passShares_of_not_ge {portion share : Binary64} (h : portion.ge share = false)
    (bucket : Nat) (found : List Nat) :
    passShares portion bucket share found = some (share, found) := by
  rw [passShares, h, if_neg Bool.false_ne_true]

/-- **The loop stops at the first share that has not been reached**, and notes the bucket once for
each share before. -/
theorem passShares_eq {portion : Binary64} (bucket n : Nat) {k : Nat} (found : List Nat)
    (hreached : ∀ j, k ≤ j → j < k + n → portion.ge (shareAt j) = true)
    (hstop : portion.ge (shareAt (k + n)) = false) :
    passShares portion bucket (shareAt k) found =
      some (shareAt (k + n), found ++ List.replicate n bucket) := by
  induction n generalizing k found with
  | zero =>
      rw [Nat.add_zero] at hstop ⊢
      rw [passShares_of_not_ge hstop, List.replicate_zero, List.append_nil]
  | succ n ih =>
      have hfirst : portion.ge (shareAt k) = true := hreached k (Nat.le_refl k) (by omega)
      have hgrows : (shareAt k).lt (shareAt (k + 1)) = true := by
        by_contra hstall
        rw [shareAt_eq_of_not_lt (Bool.eq_false_iff.2 hstall) (Nat.le_add_right k _),
          hfirst] at hstop
        cases hstop
      have hnext : k + 1 + n = k + (n + 1) := by omega
      have hrest := ih (k := k + 1) (found ++ [bucket])
        (fun j hle hlt => hreached j (by omega) (by omega)) (by rwa [hnext])
      rw [passShares_of_ge hfirst hgrows, hrest, hnext, List.append_assoc,
        List.singleton_append, ← List.replicate_succ]

/-- **Nothing is returned just when the loop does not end**: the portion has reached every share. -/
theorem passShares_eq_none_iff {portion : Binary64} (bucket : Nat) {k : Nat} (found : List Nat) :
    passShares portion bucket (shareAt k) found = none ↔
      ∀ j, k ≤ j → portion.ge (shareAt j) = true := by
  constructor
  · intro hnone j hkj
    by_contra hstop
    have hexists : ∃ n, portion.ge (shareAt (k + n)) = false :=
      ⟨j - k, by rw [Nat.add_sub_cancel' hkj]; exact Bool.eq_false_iff.2 hstop⟩
    obtain ⟨n, hn, hbefore⟩ := exists_first_not_ge hexists
    rw [passShares_eq bucket n found hbefore hn] at hnone
    cases hnone
  · intro hall
    generalize hroom : (Binary64.unitsLimit - (shareAt k).extent).toNat = room
    induction room using Nat.strong_induction_on generalizing k found with
    | _ room ih =>
        have hfirst := hall k (Nat.le_refl k)
        cases hgrows : (shareAt k).lt (shareAt (k + 1)) with
        | true =>
            have hlt := extent_lt_of_lt hgrows
            have hle := Binary64.extent_le (shareAt (k + 1))
            rw [passShares_of_ge hfirst hgrows]
            exact ih _ (by omega) _ (fun j hj => hall j (by omega)) rfl
        | false =>
            rw [shareAt] at hgrows
            rw [passShares, if_pos hfirst, hgrows, if_neg Bool.false_ne_true]

/-! ### The ten shares -/

/-- The shares up to the greatest below one: one less than the significand of 53 bits, and the
number of binary places that the significand is moved. -/
def shareDigits : List (Nat × Nat) :=
  [(7205759403792793, 56), (7205759403792793, 55), (5404319552844595, 54), (7205759403792793, 54),
    (9007199254740991, 54), (5404319552844594, 53), (6305039478318693, 53), (7205759403792792, 53),
    (8106479329266891, 53), (9007199254740990, 53)]

/-- The shares as they come out. -/
theorem extent_shareAt : (List.range 10).map (fun k => (shareAt k).extent) =
    shareDigits.map fun digits => (((digits.1 + 1) * 2 ^ (1074 - digits.2) : Nat) : Int) := by
  decide +kernel

theorem extent_shareAt_of_digits {k : Nat} {digits : Nat × Nat}
    (h : shareDigits[k]? = some digits) :
    (shareAt k).extent = (((digits.1 + 1) * 2 ^ (1074 - digits.2) : Nat) : Int) := by
  have hk : k < 10 := (List.getElem?_eq_some_iff.1 h).1
  have hentry := congrArg (fun extents => extents[k]?) extent_shareAt
  simp only [List.getElem?_map, h, Option.map_some, List.getElem?_range hk, Option.some.injEq]
    at hentry
  exact hentry

theorem shareDigits_bounds : ∀ digits ∈ shareDigits,
    2 ^ 52 ≤ digits.1 ∧ digits.1 < 2 ^ 53 ∧ digits.2 ≤ 1074 := by
  decide

/-- The tenth share is still below one, and the next one is not. -/
theorem one_lt_shareAt_iff (k : Nat) : (ofInt 1).lt (shareAt k) = true ↔ 10 ≤ k := by
  have hlast : (ofInt 1).lt (shareAt 9) = false := by decide +kernel
  have hbeyond : (ofInt 1).lt (shareAt 10) = true := by decide +kernel
  rw [lt_iff_extent (isNan_ofInt 1) (isAmount_shareAt _).1] at hbeyond ⊢
  rw [Bool.eq_false_iff, ne_eq, lt_iff_extent (isNan_ofInt 1) (isAmount_shareAt _).1] at hlast
  constructor
  · intro h
    by_contra hk
    have hmono := extent_shareAt_mono (show k ≤ 9 by omega)
    omega
  · intro hk
    have hmono := extent_shareAt_mono hk
    omega

/-! ### Portions -/

theorem ofNat_add_ofNat {m n : Nat} (hm : m < 2 ^ 53) (hn : n < 2 ^ 53) :
    Binary64.ofNat m + .ofNat n = .ofNat (m + n) := by
  rw [ofNat_eq_finite hm, ofNat_eq_finite hn, finite_false_add, ← Nat.add_mul, Binary64.ofNat]

/-- The portion of exact counts is their ratio, rounded once. -/
theorem portionOf_ofNat {total counted : Nat} (htotal : 0 < total) (hsmall : total < 2 ^ 53)
    (hcounted : counted ≤ total) :
    portionOf total (.ofNat counted) = ofRatio false (counted * unitsPerOne) total := by
  rw [portionOf, if_pos htotal]
  exact ofNat_div_ofNat (Nat.lt_of_le_of_lt hcounted hsmall) htotal hsmall

theorem unitsPerOne_eq_mul_pow {places : Nat} (h : places ≤ 1074) :
    unitsPerOne = 2 ^ places * 2 ^ (1074 - places) := by
  unfold unitsPerOne
  generalize 1074 = scale at h ⊢
  rw [← Nat.pow_add, Nat.add_sub_cancel' h, Nat.pow_eq]

theorem mul_add_le_mul_iff {a b factor : Nat} (hfactor : 0 < factor) {odd : Nat} (hodd : odd < 2) :
    a * factor + odd ≤ b * factor ↔ a + odd ≤ b := by
  rcases Nat.lt_or_ge a b with hlt | hge
  · have hmul : (a + 1) * factor ≤ b * factor := Nat.mul_le_mul_right factor hlt
    rw [Nat.add_mul, Nat.one_mul] at hmul
    constructor
    · intro _
      omega
    · intro _
      omega
  · have hmul : b * factor ≤ a * factor := Nat.mul_le_mul_right factor hge
    constructor
    · intro h
      have heq : b * factor = a * factor := by omega
      have hab : b = a := Nat.eq_of_mul_eq_mul_right hfactor heq
      omega
    · intro h
      have hab : b = a := by omega
      subst hab
      omega

/-- **A portion of exact counts has reached a share** when the counts satisfy an inequality between
integers. -/
theorem portionOf_ge_iff {total counted : Nat} (htotal : 0 < total) (hsmall : total < 2 ^ 53)
    (hcounted : counted ≤ total) {k : Nat} {digits : Nat × Nat}
    (hdigits : shareDigits[k]? = some digits) :
    (portionOf total (.ofNat counted)).ge (shareAt k) = true ↔
      (2 * digits.1 + 1) * total + (digits.1 + 1) % 2 ≤ 2 ^ (digits.2 + 1) * counted := by
  obtain ⟨hlow, hhigh, hplaces⟩ := shareDigits_bounds digits (List.mem_of_getElem? hdigits)
  have hunits := unitsPerOne_eq_mul_pow hplaces
  have hlimit := Binary64.extent_le (shareAt k)
  rw [portionOf_ofNat htotal hsmall hcounted, ge_iff_extent (isNan_ofRatio _ _ _)
    (isAmount_shareAt k).1, extent_ofRatio, withSign_false]
  rw [extent_shareAt_of_digits hdigits] at hlimit ⊢
  rw [Int.ofNat_le, Nat.le_min, and_iff_left (Int.ofNat_le.1 hlimit),
    mul_pow_le_nearestUnits_iff htotal hlow hhigh, hunits]
  have hleft : (2 * digits.1 + 1) * (total * 2 ^ (1074 - digits.2)) =
      (2 * digits.1 + 1) * total * 2 ^ (1074 - digits.2) := by ring
  have hright : 2 * (counted * (2 ^ digits.2 * 2 ^ (1074 - digits.2))) =
      2 ^ (digits.2 + 1) * counted * 2 ^ (1074 - digits.2) := by ring
  rw [hleft, hright, mul_add_le_mul_iff (Nat.two_pow_pos _) (Nat.mod_lt _ Nat.two_pos)]

theorem portionOf_not_ge {total counted : Nat} (htotal : 0 < total) (hsmall : total < 2 ^ 53)
    (hcounted : counted ≤ total) :
    (portionOf total (.ofNat counted)).ge (shareAt 10) = false := by
  have hbeyond : (unitsPerOne : Int) < (shareAt 10).extent := by
    have hlt := (one_lt_shareAt_iff 10).2 (Nat.le_refl 10)
    rwa [lt_iff_extent (isNan_ofInt 1) (isAmount_shareAt 10).1, extent_ofInt_eq (by decide),
      Int.one_mul] at hlt
  have hone : spacing unitsPerOne ∣ unitsPerOne := by
    have h := spacing_dvd (representable_ones (show 1 < 2 ^ 53 by decide))
    rwa [Nat.one_mul] at h
  have hround : nearestUnits (counted * unitsPerOne) total ≤ unitsPerOne := by
    refine nearestUnits_le_of_le_mul htotal hone ?_
    rw [Nat.mul_comm unitsPerOne]
    exact Nat.mul_le_mul_right _ hcounted
  rw [Bool.eq_false_iff, ne_eq, portionOf_ofNat htotal hsmall hcounted,
    ge_iff_extent (isNan_ofRatio _ _ _) (isAmount_shareAt 10).1, extent_ofRatio, withSign_false]
  have hmin := Int.ofNat_le.2 (Nat.le_trans (Nat.min_le_left _ unitsLimit) hround)
  exact Int.not_le.2 (Int.lt_of_le_of_lt hmin hbeyond)

/-! ### Sums of many counts -/

/-- A number that counts of so much in all have added up to: every addition may have rounded up, but
by no more than what it added, and next to a great number a count is rounded away. -/
def Counted (x : Binary64) (n : Nat) : Prop :=
  ∃ units h, x = finite false units h ∧ units ≤ 4 * (n * unitsPerOne) ∧
    units ≤ 2 ^ 118 * unitsPerOne

theorem counted_zero : Counted (zero false) 0 :=
  ⟨0, representable_zero, rfl, Nat.zero_le _, Nat.zero_le _⟩

theorem exists_ofNat_eq_finite {n : Nat} (h : n ≤ Integer.nat64Max) :
    ∃ units hunits, Binary64.ofNat n = finite false units hunits ∧
      units ≤ 2 * (n * unitsPerOne) ∧ units ≤ 2 ^ 64 * unitsPerOne := by
  have hbound : nearestUnits (2 ^ 64 * unitsPerOne) 1 = 2 ^ 64 * unitsPerOne := by
    obtain ⟨scale, hscale⟩ := exists_unitsPerOne_eq
    rw [hscale, Nat.pow_eq, ← Nat.pow_add, ← Nat.one_mul (2 ^ (64 + scale))]
    exact nearestUnits_one_of_dvd (spacing_mul_pow_dvd (by decide))
  have hlimit : 2 ^ 64 * unitsPerOne < unitsLimit := mul_unitsPerOne_lt_unitsLimit (by decide)
  have hle : n ≤ 2 ^ 64 := Nat.le_trans h (by decide)
  have hmono := nearestUnits_mono Nat.one_pos (Nat.mul_le_mul_right unitsPerOne hle)
  rw [hbound] at hmono
  have hdouble := nearestUnits_add_le representable_zero (Nat.zero_le (n * unitsPerOne))
  rw [Nat.add_zero] at hdouble
  refine ⟨nearestUnits (n * unitsPerOne) 1,
    representable_nearestUnits _ _ (Nat.lt_of_le_of_lt hmono hlimit), ?_, hdouble, hmono⟩
  rw [Binary64.ofNat, ofRatio, dif_pos (Nat.lt_of_le_of_lt hmono hlimit)]

/-- **Another count is added.** -/
theorem Counted.add {x : Binary64} {n count : Nat} (hx : Counted x n)
    (hcount : count ≤ Integer.nat64Max) : Counted (x + .ofNat count) (n + count) := by
  obtain ⟨u, hu, rfl, hle, hsmall⟩ := hx
  obtain ⟨v, hv, hofNat, hle', hsmall'⟩ := exists_ofNat_eq_finite hcount
  have hstall : nearestUnits (2 ^ 118 * unitsPerOne + 2 ^ 64 * unitsPerOne) 1 ≤
      2 ^ 118 * unitsPerOne := by decide +kernel
  have hlimit : 2 ^ 118 * unitsPerOne < unitsLimit := mul_unitsPerOne_lt_unitsLimit (by decide)
  have hsum : nearestUnits (u + v) 1 ≤ 2 ^ 118 * unitsPerOne :=
    Nat.le_trans (nearestUnits_mono Nat.one_pos (Nat.add_le_add hsmall hsmall')) hstall
  have hnear := nearestUnits_add_le hu (Nat.le_add_right u v)
  refine ⟨nearestUnits (u + v) 1,
    representable_nearestUnits _ _ (Nat.lt_of_le_of_lt hsum hlimit), ?_, ?_, hsum⟩
  · rw [hofNat, finite_false_add, ofRatio, dif_pos (Nat.lt_of_le_of_lt hsum hlimit)]
  · rw [Nat.add_mul]
    omega

theorem portionOf_zero (total : Nat) : portionOf total (zero false) = zero false := by
  unfold portionOf
  split
  case isFalse htotal => rfl
  case isTrue htotal =>
    have hround := le_two_mul_nearestUnits (total * unitsPerOne)
    have hpos : 0 < total * unitsPerOne := Nat.mul_pos htotal unitsPerOne_pos
    unfold Binary64.ofNat ofRatio
    split
    case isFalse hinfinite => rfl
    case isTrue hfinite =>
      have hlimit : nearestUnits 0 (nearestUnits (total * unitsPerOne) 1) < unitsLimit := by
        rw [nearestUnits_zero]
        exact representable_zero.1
      rw [zero, finite_div, if_neg (by omega), Nat.zero_mul, Bool.bne_false, ofRatio,
        dif_pos hlimit]
      congr 1
      exact nearestUnits_zero _

theorem Counted.extent_portionOf_le {x : Binary64} {n total : Nat} (hx : Counted x n)
    (hn : n ≤ total) :
    (portionOf total x).isNan = false ∧ (portionOf total x).extent ≤ 8 * (unitsPerOne : Int) := by
  obtain ⟨u, hu, rfl, hle, -⟩ := hx
  have hone := unitsPerOne_pos
  have hzero : (zero false).extent ≤ 8 * (unitsPerOne : Int) := by
    rw [zero, extent, withSign_false]
    omega
  unfold portionOf
  split
  case isFalse htotal => exact ⟨rfl, hzero⟩
  case isTrue htotal =>
    have hround := le_two_mul_nearestUnits (total * unitsPerOne)
    have hpos : 0 < total * unitsPerOne := Nat.mul_pos htotal hone
    have hn' : n * unitsPerOne ≤ total * unitsPerOne := Nat.mul_le_mul_right _ hn
    unfold Binary64.ofNat ofRatio
    split
    case isFalse hinfinite => exact ⟨rfl, hzero⟩
    case isTrue hfinite =>
      rw [finite_div, if_neg (by omega), Bool.bne_false]
      refine ⟨isNan_ofRatio _ _ _, ?_⟩
      have hratio : u * unitsPerOne ≤
          8 * unitsPerOne * nearestUnits (total * unitsPerOne) 1 := by
        have hu8 : u ≤ 8 * nearestUnits (total * unitsPerOne) 1 := by omega
        have hmul := Nat.mul_le_mul_right unitsPerOne hu8
        rwa [Nat.mul_right_comm] at hmul
      have hle := nearestUnits_le_of_le_mul (by omega)
        (spacing_dvd (representable_ones (show 8 < 2 ^ 53 by decide))) hratio
      have hcast : ((8 * unitsPerOne : Nat) : Int) = 8 * (unitsPerOne : Int) :=
        Int.natCast_mul 8 unitsPerOne
      rw [extent_ofRatio, withSign_false, ← hcast]
      exact Int.ofNat_le.2 (Nat.le_trans (Nat.min_le_left _ _) hle)

/-- **A portion of a sum of counts does not reach the limit of the shares.** -/
theorem Counted.not_ge_shareLimit {x : Binary64} {n total : Nat} (hx : Counted x n)
    (hn : n ≤ total) : (portionOf total x).ge shareLimit ≠ true := by
  obtain ⟨hnan, hle⟩ := hx.extent_portionOf_le hn
  have hone := unitsPerOne_pos
  rw [ne_eq, ge_iff_extent hnan isNan_shareLimit, extent_shareLimit]
  omega

end ClusterReport.Histogram
