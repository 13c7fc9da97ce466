/-
**Rounding keeps the order.**

The number of the format nearest to a ratio does not fall when the ratio grows: within one binade
the multiples of one spacing are counted, and between two binades lies a power of two, which is a
number of the format and which neither side is rounded across.  Integers are therefore compared as
their nearest numbers without ever changing sides, although large ones may come out equal.

Main results:

* `ClusterReport.Binary64.nearestUnits_mono` — a greater ratio is not rounded to less;
* `ClusterReport.Binary64.extent_ofRatio` — how far a rounded ratio reaches;
* `ClusterReport.Binary64.ofInt_ge_ofInt` — **integers keep their order**;
* `ClusterReport.Binary64.ofInt_eq_zero_iff` — only zero is rounded to zero.
-/

import ClusterReport.Binary64.Extent

set_option relaxedAutoImplicit false
set_option autoImplicit false

namespace ClusterReport.Binary64

/-! ### Quotients -/

theorem div_le_divToEven (num den : Nat) : num / den ≤ divToEven num den := by
  unfold divToEven
  dsimp only
  split
  · exact Nat.le_refl _
  · split <;> omega

theorem divToEven_mono {a b : Nat} (den : Nat) (h : a ≤ b) :
    divToEven a den ≤ divToEven b den := by
  have ha := Nat.div_add_mod a den
  have hb := Nat.div_add_mod b den
  have hfloor := div_le_divToEven b den
  rcases Nat.lt_or_eq_of_le (Nat.div_le_div_right h : a / den ≤ b / den) with hlt | heq
  · have hceil := divToEven_le a den
    omega
  · rw [heq] at ha
    -- with equal whole quotients the remainders decide
    have hmod : a % den ≤ b % den := by omega
    have hdown : 2 * (a % den) < den → divToEven a den = b / den := fun hlt => by
      simp only [divToEven, if_pos hlt, heq]
    have hup : den < 2 * (b % den) → divToEven b den = b / den + 1 := fun hgt => by
      simp only [divToEven, if_neg (Nat.not_lt.2 (Nat.le_of_lt hgt)), if_pos hgt]
    by_cases hlt : 2 * (a % den) < den
    · rw [hdown hlt]
      exact hfloor
    · by_cases hgt : den < 2 * (b % den)
      · rw [hup hgt, ← heq]
        exact divToEven_le a den
      · -- both are halves between the same neighbours
        have hmod' : a % den = b % den := by omega
        simp only [divToEven, heq, hmod', Nat.le_refl]

/-! ### Binades -/

/-- The power of two that starts the binade of a spacing. -/
theorem pow_le_of_spacing {whole j : Nat} (hj : whole.log2 - 52 = j) (hpos : 0 < j) :
    Nat.pow 2 (52 + j) ≤ whole := by
  have hlog : whole.log2 = 52 + j := by omega
  have hne : whole ≠ 0 := by
    rintro rfl
    rw [Nat.log2_zero] at hlog
    omega
  rw [← hlog]
  exact Nat.log2_self_le hne

theorem lt_pow_of_spacing {whole j : Nat} (hj : whole.log2 - 52 < j) :
    whole < Nat.pow 2 (52 + j) :=
  Nat.lt_of_lt_of_le Nat.lt_log2_self (Nat.pow_le_pow_right (by decide) (by omega))

theorem exists_pow_eq_mul_spacing (whole : Nat) {k : Nat} (hk : whole.log2 - 52 ≤ k) :
    ∃ m, Nat.pow 2 k = m * spacing whole :=
  ⟨Nat.pow 2 (k - (whole.log2 - 52)), by
    rw [spacing, Nat.pow_eq, Nat.pow_eq, Nat.pow_eq, ← Nat.pow_add, Nat.sub_add_cancel hk]⟩

/-- A multiple of the spacing is counted exactly. -/
theorem divToEven_mul_spacing {den : Nat} (hden : 0 < den) (m whole : Nat) :
    divToEven (m * spacing whole * den) (den * spacing whole) = m := by
  rw [Nat.mul_assoc, Nat.mul_comm (spacing whole) den]
  exact divToEven_mul m _ (Nat.mul_pos hden (spacing_pos whole))

theorem nearestUnits_le_mul {num den m : Nat} (hden : 0 < den)
    (h : num ≤ m * spacing (num / den) * den) :
    nearestUnits num den ≤ m * spacing (num / den) := by
  have hquot := divToEven_mono (den * spacing (num / den)) h
  rw [divToEven_mul_spacing hden] at hquot
  exact Nat.mul_le_mul_right _ hquot

theorem mul_le_nearestUnits {num den m : Nat} (hden : 0 < den)
    (h : m * spacing (num / den) * den ≤ num) :
    m * spacing (num / den) ≤ nearestUnits num den := by
  have hquot := divToEven_mono (den * spacing (num / den)) h
  rw [divToEven_mul_spacing hden] at hquot
  exact Nat.mul_le_mul_right _ hquot

/-- Two ratios of different binades have the start of the greater one between them. -/
theorem nearestUnits_le_of_spacing_lt {a b den : Nat} (hden : 0 < den)
    (h : (a / den).log2 - 52 < (b / den).log2 - 52) : nearestUnits a den ≤ nearestUnits b den := by
  have hstart := pow_le_of_spacing rfl (Nat.zero_lt_of_lt h)
  have hbelow := lt_pow_of_spacing h
  generalize hk : 52 + ((b / den).log2 - 52) = k at hstart hbelow
  obtain ⟨m, hm⟩ := exists_pow_eq_mul_spacing (a / den) (k := k) (by omega)
  obtain ⟨n, hn⟩ := exists_pow_eq_mul_spacing (b / den) (k := k) (by omega)
  have ha : a ≤ m * spacing (a / den) * den := by
    rw [← hm]
    exact Nat.le_of_lt ((Nat.div_lt_iff_lt_mul hden).1 hbelow)
  have hb : n * spacing (b / den) * den ≤ b := by
    rw [← hn]
    exact (Nat.le_div_iff_mul_le hden).1 hstart
  calc nearestUnits a den
      _ ≤ m * spacing (a / den) := nearestUnits_le_mul hden ha
      _ = n * spacing (b / den) := hm.symm.trans hn
      _ ≤ nearestUnits b den := mul_le_nearestUnits hden hb

/-- **A greater ratio is not rounded to less.** -/
theorem nearestUnits_mono {a b den : Nat} (hden : 0 < den) (h : a ≤ b) :
    nearestUnits a den ≤ nearestUnits b den := by
  have hwhole : a / den ≤ b / den := Nat.div_le_div_right h
  rcases Nat.lt_trichotomy ((a / den).log2 - 52) ((b / den).log2 - 52) with hlt | heq | hgt
  · exact nearestUnits_le_of_spacing_lt hden hlt
  · have hspacing : spacing (a / den) = spacing (b / den) := by rw [spacing, heq, spacing]
    unfold nearestUnits
    dsimp only
    rw [hspacing]
    exact Nat.mul_le_mul_right _ (divToEven_mono _ h)
  · have hge := pow_le_of_spacing rfl (Nat.zero_lt_of_lt hgt)
    have hlt := lt_pow_of_spacing hgt
    omega

@[simp] theorem nearestUnits_zero (den : Nat) : nearestUnits 0 den = 0 := by
  simp [nearestUnits, divToEven]

theorem nearestUnits_pos {num den : Nat} (hden : 0 < den) (h : den ≤ num) :
    0 < nearestUnits num den := by
  have hwhole : num / den ≠ 0 := Nat.ne_of_gt (Nat.div_pos h hden)
  have hspacing : spacing (num / den) ≤ num / den :=
    Nat.le_trans (Nat.pow_le_pow_right (by decide) (Nat.sub_le _ _)) (Nat.log2_self_le hwhole)
  have hone : 1 * spacing (num / den) ≤ nearestUnits num den := by
    refine mul_le_nearestUnits hden ?_
    rw [Nat.one_mul]
    exact (Nat.le_div_iff_mul_le hden).1 hspacing
  rw [Nat.one_mul] at hone
  exact Nat.lt_of_lt_of_le (spacing_pos _) hone

/-! ### Integers -/

theorem withSign_natAbs_mono {f : Nat → Nat} (hf : ∀ {m n}, m ≤ n → f m ≤ f n) {a b : Int}
    (h : a ≤ b) : withSign (a < 0) (f a.natAbs) ≤ withSign (b < 0) (f b.natAbs) := by
  by_cases ha : a < 0
  · by_cases hb : b < 0
    · have hle := hf (show b.natAbs ≤ a.natAbs by omega)
      simp only [ha, hb, decide_true, withSign_true]
      omega
    · simp only [ha, hb, decide_true, decide_false, withSign_true, withSign_false]
      omega
  · have hb : ¬ b < 0 := by omega
    have hle := hf (show a.natAbs ≤ b.natAbs by omega)
    simp only [ha, hb, decide_false, withSign_false]
    omega

theorem withSign_natAbs_eq_zero_iff {f : Nat → Nat} (hf : ∀ n, 0 < f n ↔ 0 < n) (n : Int) :
    withSign (n < 0) (f n.natAbs) = 0 ↔ n = 0 := by
  have hpos := hf n.natAbs
  by_cases hn : n < 0
  · simp only [hn, decide_true, withSign_true]
    omega
  · simp only [hn, decide_false, withSign_false]
    omega

@[simp] theorem isNan_ofRatio (negative : Bool) (num den : Nat) :
    (ofRatio negative num den).isNan = false := by
  unfold ofRatio
  split <;> rfl

@[simp] theorem isNan_ofInt (n : Int) : (ofInt n).isNan = false := isNan_ofRatio _ _ _

/-- How far a rounded ratio reaches. -/
theorem extent_ofRatio (negative : Bool) (num den : Nat) :
    (ofRatio negative num den).extent =
      withSign negative (min (nearestUnits num den) unitsLimit) := by
  unfold ofRatio
  split
  case isTrue h => rw [extent, Nat.min_eq_left (Nat.le_of_lt h)]
  case isFalse h => rw [extent, Nat.min_eq_right (Nat.not_lt.1 h)]

/-- How far the number nearest to a natural number of ones reaches. -/
def onesExtent (n : Nat) : Nat := min (nearestUnits (n * unitsPerOne) 1) unitsLimit

theorem onesExtent_mono {m n : Nat} (h : m ≤ n) : onesExtent m ≤ onesExtent n := by
  have hunits := nearestUnits_mono Nat.one_pos (Nat.mul_le_mul_right unitsPerOne h)
  unfold onesExtent
  omega

theorem onesExtent_pos_iff (n : Nat) : 0 < onesExtent n ↔ 0 < n := by
  have hlimit := representable_zero.1
  rcases Nat.eq_zero_or_pos n with rfl | hn
  · rw [onesExtent, Nat.zero_mul, nearestUnits_zero, Nat.zero_min]
  · have hunits : 0 < nearestUnits (n * unitsPerOne) 1 :=
      nearestUnits_pos Nat.one_pos (Nat.mul_pos hn unitsPerOne_pos)
    exact ⟨fun _ => hn, fun _ => Nat.lt_min.2 ⟨hunits, hlimit⟩⟩

theorem extent_ofInt (n : Int) :
    (ofInt n).extent = withSign (n < 0) (onesExtent n.natAbs) := by
  have h := extent_ofRatio (n < 0) (n.natAbs * unitsPerOne) 1
  rw [← onesExtent] at h
  rw [← h, ofInt]

/-- **Integers keep their order.** -/
theorem ofInt_ge_ofInt {a b : Int} (h : a ≤ b) : (ofInt b).ge (ofInt a) = true := by
  rw [ge_iff_extent (isNan_ofInt b) (isNan_ofInt a), extent_ofInt, extent_ofInt]
  exact withSign_natAbs_mono onesExtent_mono h

/-- Only zero is rounded to zero. -/
theorem ofInt_eq_zero_iff (n : Int) : (ofInt n).eq (zero false) = true ↔ n = 0 := by
  rw [eq_iff_extent (isNan_ofInt n) rfl, extent_ofInt]
  exact withSign_natAbs_eq_zero_iff onesExtent_pos_iff n

end ClusterReport.Binary64
