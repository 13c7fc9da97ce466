/-
**Ratios of whole numbers.**

A ratio of two counts that is rounded to a number of the format and then to a whole number has been
rounded twice.  For counts that are not too great that is the same as rounding once: the numbers of
the format are so close together there that one of them lies between the ratio and every half that
the ratio is not, and the half itself is one of them, so the first rounding does not take the ratio
to the other side of a half, nor to it.

Main results:

* `ClusterReport.Binary64.lt_divToEven_iff` — from where on a ratio is rounded to more than a given
  number;
* `ClusterReport.Binary64.half_le_nearestUnits_iff`, `half_lt_nearestUnits_iff` — a rounded ratio
  stays on its side of a half;
* `ClusterReport.Binary64.lt_divToEven_nearestUnits_iff` — **rounding twice is rounding once**;
* `ClusterReport.Binary64.toInt64_roundEven_div` — a ratio of counts as a whole number;
* `ClusterReport.Binary64.div_self`, `zero_div` — a number other than zero divided by itself, and
  zero divided by a positive number;
* `ClusterReport.Binary64.ofInt_ge_ofInt_iff`, `ofInt_eq_ofInt_of_lt` — integers in the order of
  what they are rounded to.
-/

import ClusterReport.Proofs.Binary64.Nearest

set_option relaxedAutoImplicit false
set_option autoImplicit false

namespace ClusterReport.Binary64

/-! ### Rounding to whole numbers -/

/-- A quotient is rounded to more than a number from the half above it on, and at that half if the
number is odd. -/
theorem lt_divToEven_iff {num den : Nat} (hden : 0 < den) (k : Nat) :
    k < divToEven num den ↔ (2 * k + 1) * den + (k + 1) % 2 ≤ 2 * num := by
  have hodd : (2 * k + 1) * den = 2 * (k * den) + den := by ring
  have hsucc : (k + 1) * den = k * den + den := by ring
  rcases Nat.lt_trichotomy k (num / den) with hbelow | heq | habove
  · have hnum : (k + 1) * den ≤ num := (Nat.le_div_iff_mul_le hden).1 hbelow
    have hfloor := div_le_divToEven num den
    omega
  · exact succ_le_divToEven_iff heq.symm
  · have hnum : num < k * den := (Nat.div_lt_iff_lt_mul hden).1 habove
    have hceil := divToEven_le num den
    omega

/-- A power of two next to a number: not below it, and at most twice as great. -/
theorem exists_pow_between {n : Nat} (h : 0 < n) : ∃ i, n ≤ 2 ^ i ∧ 2 ^ i ≤ 2 * n := by
  have hlow := Nat.log2_self_le (Nat.ne_of_gt h)
  have hhigh := @Nat.lt_log2_self n
  refine ⟨n.log2 + 1, Nat.le_of_lt hhigh, ?_⟩
  rw [Nat.pow_succ]
  omega

/-! ### Halves -/

section

variable {count num den scale : Nat}

/-- The numbers of the format around `count` halves, where one is `2 ^ (scale + 1)`, are nearer to
it than any other ratio with the denominator. -/
theorem exists_neighbours_near (hden : 0 < den) (hsmall : count * (2 * den) < 2 ^ 53)
    (hcount : 0 < count) (hscale : 53 ≤ scale) :
    ∃ i j, den * 2 ^ j ≤ 2 ^ scale ∧ count * 2 ^ scale = count * 2 ^ i * 2 ^ j ∧
      count * 2 ^ i < 2 ^ 53 := by
  obtain ⟨i, hlow, hhigh⟩ := exists_pow_between hden
  have hbits : count * 2 ^ i < 2 ^ 53 :=
    Nat.lt_of_le_of_lt (Nat.mul_le_mul_left count hhigh) hsmall
  have hi : i < 53 := by
    refine (Nat.pow_lt_pow_iff_right (a := 2) (by decide)).1 ?_
    exact Nat.lt_of_le_of_lt (Nat.le_mul_of_pos_left _ hcount) hbits
  have hsplit : 2 ^ scale = 2 ^ i * 2 ^ (scale - i) := by
    rw [← Nat.pow_add, Nat.add_sub_cancel' (by omega)]
  refine ⟨i, scale - i, ?_, ?_, hbits⟩
  · rw [hsplit]
    exact Nat.mul_le_mul_right _ hlow
  · rw [hsplit, Nat.mul_assoc]

/-- A rounded ratio reaches a half exactly when the ratio does. -/
theorem half_le_nearestUnits_iff (hden : 0 < den) (hsmall : count * (2 * den) < 2 ^ 53)
    (hcount : 0 < count) (hscale : 53 ≤ scale) :
    count * 2 ^ scale ≤ nearestUnits (num * 2 ^ (scale + 1)) den ↔ count * den ≤ 2 * num := by
  obtain ⟨i, j, hstep, hhalf, hbits⟩ := exists_neighbours_near hden hsmall hcount hscale
  have hnum : num * 2 ^ (scale + 1) = 2 * num * 2 ^ scale := by ring
  have hden' : count * 2 ^ scale * den = count * den * 2 ^ scale := by ring
  constructor
  · intro h
    by_contra hlt
    -- the neighbour below the half is still not below the ratio
    have hpos : 1 ≤ count * 2 ^ i := Nat.mul_pos hcount (Nat.two_pow_pos i)
    have hnext : (count * 2 ^ i - 1) * 2 ^ j + 2 ^ j = count * 2 ^ i * 2 ^ j := by
      rw [← Nat.succ_mul, Nat.succ_eq_add_one, Nat.sub_add_cancel hpos]
    have hbelow : (2 * num + 1) * 2 ^ scale ≤ count * den * 2 ^ scale :=
      Nat.mul_le_mul_right _ (by omega)
    have hround : nearestUnits (num * 2 ^ (scale + 1)) den ≤ (count * 2 ^ i - 1) * 2 ^ j := by
      refine nearestUnits_le_of_le_mul hden (spacing_mul_pow_dvd (by omega)) ?_
      have hmul : ((count * 2 ^ i - 1) * 2 ^ j + 2 ^ j) * den = count * den * 2 ^ scale := by
        rw [hnext, ← hhalf, hden']
      rw [Nat.add_mul, Nat.mul_comm (2 ^ j) den] at hmul
      rw [Nat.add_mul, Nat.one_mul] at hbelow
      omega
    have hstep_pos := Nat.two_pow_pos j
    omega
  · intro h
    refine le_nearestUnits_of_mul_le hden ?_ ?_
    · rw [hhalf]
      exact spacing_mul_pow_dvd (Nat.le_of_lt hbits)
    · rw [hnum, hden']
      exact Nat.mul_le_mul_right _ h

/-- A rounded ratio goes beyond a half exactly when the ratio does. -/
theorem half_lt_nearestUnits_iff (hden : 0 < den) (hsmall : count * (2 * den) < 2 ^ 53)
    (hcount : 0 < count) (hscale : 53 ≤ scale) :
    count * 2 ^ scale < nearestUnits (num * 2 ^ (scale + 1)) den ↔ count * den < 2 * num := by
  obtain ⟨i, j, hstep, hhalf, hbits⟩ := exists_neighbours_near hden hsmall hcount hscale
  have hnum : num * 2 ^ (scale + 1) = 2 * num * 2 ^ scale := by ring
  have hden' : count * 2 ^ scale * den = count * den * 2 ^ scale := by ring
  constructor
  · intro h
    by_contra hle
    have hround : nearestUnits (num * 2 ^ (scale + 1)) den ≤ count * 2 ^ scale := by
      refine nearestUnits_le_of_le_mul hden ?_ ?_
      · rw [hhalf]
        exact spacing_mul_pow_dvd (Nat.le_of_lt hbits)
      · rw [hnum, hden']
        exact Nat.mul_le_mul_right _ (Nat.not_lt.1 hle)
    omega
  · intro h
    -- the neighbour above the half is still not above the ratio
    have habove : (count * den + 1) * 2 ^ scale ≤ 2 * num * 2 ^ scale :=
      Nat.mul_le_mul_right _ h
    have hround : (count * 2 ^ i + 1) * 2 ^ j ≤ nearestUnits (num * 2 ^ (scale + 1)) den := by
      refine le_nearestUnits_of_mul_le hden (spacing_mul_pow_dvd hbits) ?_
      rw [Nat.add_mul, Nat.one_mul, ← hhalf, Nat.add_mul, hden', Nat.mul_comm (2 ^ j) den, hnum]
      rw [Nat.add_mul, Nat.one_mul] at habove
      omega
    have hstep_pos := Nat.two_pow_pos j
    rw [Nat.add_mul, ← hhalf] at hround
    omega

end

/-! ### Rounding twice -/

theorem exists_unitsPerOne_eq_pow_succ : ∃ scale, 53 ≤ scale ∧ unitsPerOne = 2 ^ (scale + 1) := by
  obtain ⟨ones, hones⟩ := exists_unitsPerOne_eq
  have hgreat : 2 ^ 54 ≤ unitsPerOne := by decide +kernel
  rw [hones, Nat.pow_eq] at hgreat
  have hle : 54 ≤ ones := (Nat.pow_le_pow_iff_right (by decide)).1 hgreat
  exact ⟨ones - 1, by omega, by rw [hones, Nat.pow_eq, Nat.sub_add_cancel (by omega)]⟩

/-- **Rounding twice is rounding once**, for counts that are not too great. -/
theorem lt_divToEven_nearestUnits_iff {k num den : Nat} (hden : 0 < den)
    (hsmall : (2 * k + 1) * (2 * den) < 2 ^ 53) :
    k < divToEven (nearestUnits (num * unitsPerOne) den) unitsPerOne ↔ k < divToEven num den := by
  obtain ⟨scale, hscale, hone⟩ := exists_unitsPerOne_eq_pow_succ
  have hle := @half_le_nearestUnits_iff _ num den scale hden hsmall (Nat.succ_pos _) hscale
  have hlt := @half_lt_nearestUnits_iff _ num den scale hden hsmall (Nat.succ_pos _) hscale
  have htwice : (2 * k + 1) * 2 ^ (scale + 1) = 2 * ((2 * k + 1) * 2 ^ scale) := by ring
  rw [lt_divToEven_iff unitsPerOne_pos, lt_divToEven_iff hden, hone, htwice]
  generalize (2 * k + 1) * 2 ^ scale = half at hle hlt ⊢
  generalize nearestUnits (num * 2 ^ (scale + 1)) den = rounded at hle hlt ⊢
  rcases Nat.mod_two_eq_zero_or_one (k + 1) with heven | hodd
  · rw [heven, Nat.add_zero, Nat.add_zero, ← hle]
    omega
  · rw [hodd]
    omega

/-! ### Ratios of whole numbers -/

theorem ofNat_eq_finite {n : Nat} (h : n < 2 ^ 53) :
    ofNat n = finite false (n * unitsPerOne) (representable_ones h) :=
  ofRatio_one false _

theorem ofInt_natCast (n : Nat) : ofInt n = ofNat n := by
  rw [ofInt, Int.natAbs_natCast, decide_eq_false (Int.not_lt.2 (Int.natCast_nonneg n)), ofNat]

theorem ofInt_zero : ofInt 0 = zero false := by decide +kernel

theorem ofNat_div_ofNat {num den : Nat} (hnum : num < 2 ^ 53) (hden : 0 < den)
    (hden' : den < 2 ^ 53) :
    ofNat num / ofNat den = ofRatio false (num * unitsPerOne) den := by
  have hne : den * unitsPerOne ≠ 0 := Nat.ne_of_gt (Nat.mul_pos hden unitsPerOne_pos)
  rw [ofNat_eq_finite hnum, ofNat_eq_finite hden', finite_div, if_neg hne, bne_self_eq_false]
  simp only [ofRatio, nearestUnits_mul_mul _ _ unitsPerOne_pos]

/-- A ratio of counts as a whole number: the ratio rounded twice. -/
theorem toInt64_roundEven_div {num den : Nat} (hnum : num < 2 ^ 53) (hden : 0 < den)
    (hden' : den < 2 ^ 53) :
    (ofNat num / ofNat den).roundEven.toInt64 =
      divToEven (nearestUnits (num * unitsPerOne) den) unitsPerOne := by
  have hrep := representable_ones hnum
  have hunits : nearestUnits (num * unitsPerOne) den ≤ num * unitsPerOne :=
    nearestUnits_le_of_le_mul hden (spacing_dvd hrep) (Nat.le_mul_of_pos_right _ hden)
  have hwhole : divToEven (nearestUnits (num * unitsPerOne) den) unitsPerOne < 2 ^ 53 := by
    have hmono := divToEven_mono unitsPerOne hunits
    rw [divToEven_mul _ _ unitsPerOne_pos] at hmono
    exact Nat.lt_of_le_of_lt hmono hnum
  rw [ofNat_div_ofNat hnum hden hden', ofRatio, dif_pos (Nat.lt_of_le_of_lt hunits hrep.1)]
  change (ofRatio false _ 1).toInt64 = _
  rw [(isWhole_ofRatio false hwhole).toInt64, withSign_false]
  simp only [Integer.clampInt64, Integer.int64Max, Integer.int64Min]
  omega

/-- A number other than zero divided by itself. -/
theorem div_self {x : Binary64} (hx : x.isFinite = true) (hzero : ¬ x.eq (zero false) = true) :
    x / x = ofInt 1 := by
  cases x with
  | nonNumber _ _ => cases hx
  | infinite _ => cases hx
  | finite negative units hrep =>
      have hne : units ≠ 0 := by
        rintro rfl
        cases negative <;> exact hzero rfl
      have hone : nearestUnits (units * unitsPerOne) units = nearestUnits (1 * unitsPerOne) 1 := by
        have hrep : Representable (1 * unitsPerOne) := representable_ones (by decide)
        have hspacing : spacing unitsPerOne ∣ unitsPerOne := by
          have hdvd := spacing_dvd hrep
          rwa [Nat.one_mul] at hdvd
        rw [nearestUnits_one hrep, Nat.mul_comm,
          nearestUnits_mul_den (Nat.pos_of_ne_zero hne) hspacing, Nat.one_mul]
      rw [finite_div, if_neg hne, bne_self_eq_false, ← Int.natCast_one, ofInt_natCast, ofNat]
      simp only [ofRatio, hone]

/-- Nothing of a positive number is zero. -/
theorem zero_div {x : Binary64} (hx : (zero false).lt x = true) :
    zero false / x = zero false := by
  cases x with
  | nonNumber _ _ => cases hx
  | infinite negative =>
      cases negative
      · rfl
      · cases hx
  | finite negative units hrep =>
      have hextent : (0 : Int) < withSign negative units := extent_lt_of_lt hx
      have hne : units ≠ 0 := by
        rintro rfl
        cases negative <;> exact absurd hextent (Int.lt_irrefl 0)
      cases negative
      · have hnothing : nearestUnits 0 units < unitsLimit := by
          rw [nearestUnits_zero]
          exact representable_zero.1
        rw [zero, finite_div, if_neg hne, Nat.zero_mul, bne_self_eq_false, ofRatio,
          dif_pos hnothing]
        simp only [nearestUnits_zero]
      · rw [withSign_true] at hextent
        omega

/-! ### The order of integers -/

/-- Integers up to `2 ^ 53` are represented exactly. -/
theorem onesExtent_eq {n : Nat} (h : n ≤ 2 ^ 53) : onesExtent n = n * unitsPerOne := by
  obtain ⟨scale, -, hone⟩ := exists_unitsPerOne_eq_pow_succ
  have hlimit : n * unitsPerOne < unitsLimit :=
    mul_unitsPerOne_lt_unitsLimit (Nat.le_trans h (by decide))
  have hunits : nearestUnits (n * unitsPerOne) 1 = n * unitsPerOne := by
    have hmul := @nearestUnits_mul_den (n * unitsPerOne) 1 Nat.one_pos
      (by rw [hone]; exact spacing_mul_pow_dvd h)
    rwa [Nat.mul_one] at hmul
  rw [onesExtent, hunits]
  exact Nat.min_eq_left (Nat.le_of_lt hlimit)

theorem extent_ofInt_eq {n : Int} (h : n.natAbs ≤ 2 ^ 53) : (ofInt n).extent = n * unitsPerOne := by
  have hsign := withSign_natAbs false n
  rw [extent_ofInt, onesExtent_eq h, withSign_mul]
  congr 1
  split at hsign
  case isTrue hzero => rw [hzero]; rfl
  case isFalse => exact hsign

theorem extent_ofInt_mono {a b : Int} (h : a ≤ b) : (ofInt a).extent ≤ (ofInt b).extent := by
  rw [extent_ofInt, extent_ofInt]
  exact withSign_natAbs_mono onesExtent_mono h

/-- An integer is rounded to at least what another one is rounded to when it is at least as great,
or when both are rounded to the same. -/
theorem ofInt_ge_ofInt_iff {a b : Int} :
    (ofInt b).ge (ofInt a) = true ↔ a ≤ b ∨ (ofInt b).eq (ofInt a) = true := by
  rw [ge_iff_extent (isNan_ofInt b) (isNan_ofInt a), eq_iff_extent (isNan_ofInt b) (isNan_ofInt a)]
  constructor
  · intro hge
    by_cases hle : a ≤ b
    · exact .inl hle
    · have hmono := extent_ofInt_mono (Int.le_of_lt (Int.not_le.1 hle))
      exact .inr (Int.le_antisymm hmono hge)
  · rintro (hle | heq)
    · exact extent_ofInt_mono hle
    · exact Int.le_of_eq heq.symm

/-- **No integer is rounded to another one below `2 ^ 53` from below.** -/
theorem ofInt_eq_ofInt_of_lt {a b : Int} (h : a < b) (hb : b.natAbs < 2 ^ 53) :
    (ofInt a).eq (ofInt b) = false := by
  have hmono := extent_ofInt_mono (show a ≤ b - 1 by omega)
  have hpos := Int.natCast_pos.2 unitsPerOne_pos
  rw [← Bool.not_eq_true, eq_iff_extent (isNan_ofInt a) (isNan_ofInt b),
    extent_ofInt_eq (Nat.le_of_lt hb)]
  rw [extent_ofInt_eq (show (b - 1).natAbs ≤ 2 ^ 53 by omega), Int.sub_mul, Int.one_mul] at hmono
  omega

theorem zero_lt_ofInt {n : Int} (h : 0 < n) : (zero false).lt (ofInt n) = true := by
  have hpos := (onesExtent_pos_iff n.natAbs).2 (by omega)
  rw [lt_iff_extent rfl (isNan_ofInt n), extent_ofInt,
    decide_eq_false (Int.not_lt.2 (Int.le_of_lt h)), withSign_false]
  exact Int.natCast_pos.2 hpos

end ClusterReport.Binary64
