/-
**Where rounding changes sides.**

A ratio is rounded to at least a given number of the format from the middle between that number and
the one before it on, and in the middle itself when the number is the even one of the two.  A
comparison of a rounded quotient with a number of the format is therefore a comparison of products
of integers.  What is rounded stays within a distance of the exact ratio that is no greater than the
distance to any other number of the format, so that additions which are rounded up, however many of
them there are, at most double what has been added.

Main results:

* `ClusterReport.Binary64.nearestUnits_mul_den` — a ratio that is a number of the format;
* `ClusterReport.Binary64.mul_pow_le_nearestUnits_iff` — **the least ratio that is rounded to at
  least a number of the format**;
* `ClusterReport.Binary64.nearestUnits_add_le`, `le_two_mul_nearestUnits` — no number of the format
  is nearer than the rounded one;
* `ClusterReport.Binary64.nearestUnits_mul_mul` — a ratio does not depend on how it is written;
* `ClusterReport.Binary64.IsAmount.extent_le_add`, `IsAmount.le_extent_add` — how far a sum of
  amounts reaches at least.
-/

import ClusterReport.Proofs.Binary64.Whole
import Mathlib.Tactic.Ring

set_option relaxedAutoImplicit false
set_option autoImplicit false

namespace ClusterReport.Binary64

/-! ### Exact ratios -/

/-- A ratio does not depend on a common factor. -/
theorem nearestUnits_mul_mul (num den : Nat) {factor : Nat} (h : 0 < factor) :
    nearestUnits (num * factor) (den * factor) = nearestUnits num den := by
  have hround : ∀ step, divToEven (num * factor) (den * factor * step) =
      divToEven num (den * step) := by
    intro step
    have hden : den * factor * step = den * step * factor := by ring
    have htwice : ∀ rest, 2 * (rest * factor) = 2 * rest * factor := fun rest => by ring
    simp only [divToEven, hden, Nat.mul_div_mul_right _ _ h, Nat.mul_mod_mul_right, htwice,
      Nat.mul_lt_mul_right h]
  simp only [nearestUnits, Nat.mul_div_mul_right _ _ h, hround]

/-- A multiple of its own spacing is not rounded, also when it is given as a ratio. -/
theorem nearestUnits_mul_den {units den : Nat} (hden : 0 < den) (h : spacing units ∣ units) :
    nearestUnits (units * den) den = units := by
  have hone : nearestUnits (units * den) den = nearestUnits units 1 := by
    have hscale := nearestUnits_mul_mul units 1 hden
    rwa [Nat.one_mul] at hscale
  rw [hone, nearestUnits_one_of_dvd h]

theorem spacing_mul_pow_dvd {m scale : Nat} (h : m ≤ 2 ^ 53) :
    spacing (m * 2 ^ scale) ∣ m * 2 ^ scale := by
  rcases Nat.eq_zero_or_pos m with rfl | hpos
  · rw [Nat.zero_mul]
    exact Nat.dvd_zero _
  · have hne : m * 2 ^ scale ≠ 0 := Nat.ne_of_gt (Nat.mul_pos hpos (Nat.two_pow_pos scale))
    rcases Nat.lt_or_eq_of_le h with hlt | rfl
    · have hbound : m * 2 ^ scale < 2 ^ (53 + scale) := by
        rw [Nat.pow_add]
        exact Nat.mul_lt_mul_of_pos_right hlt (Nat.two_pow_pos scale)
      have hlog : (m * 2 ^ scale).log2 < 53 + scale := (Nat.log2_lt hne).2 hbound
      exact Nat.dvd_mul_left_of_dvd (Nat.pow_dvd_pow 2 (by omega)) m
    · rw [← Nat.pow_add, spacing, Nat.log2_two_pow]
      exact Nat.pow_dvd_pow 2 (by omega)

/-- A ratio is not rounded up across a number of the format. -/
theorem nearestUnits_le_of_le_mul {num den bound : Nat} (hden : 0 < den)
    (hbound : spacing bound ∣ bound) (h : num ≤ bound * den) : nearestUnits num den ≤ bound := by
  have hmono := nearestUnits_mono hden h
  rwa [nearestUnits_mul_den hden hbound] at hmono

/-- A ratio is not rounded down across a number of the format. -/
theorem le_nearestUnits_of_mul_le {num den bound : Nat} (hden : 0 < den)
    (hbound : spacing bound ∣ bound) (h : bound * den ≤ num) : bound ≤ nearestUnits num den := by
  have hmono := nearestUnits_mono hden h
  rwa [nearestUnits_mul_den hden hbound] at hmono

/-! ### The middle between two neighbours -/

/-- A quotient is rounded up from the half on, and at the half to the even side. -/
theorem succ_le_divToEven_iff {num den q : Nat} (hq : num / den = q) :
    q + 1 ≤ divToEven num den ↔ (2 * q + 1) * den + (q + 1) % 2 ≤ 2 * num := by
  have hmod := Nat.div_add_mod num den
  rw [hq] at hmod
  have htwice : 2 * num = 2 * q * den + 2 * (num % den) := by
    rw [← hmod]
    ring_nf
    rw [hmod]
  have hodd : (2 * q + 1) * den = 2 * q * den + den := by ring
  rw [htwice, hodd]
  simp only [divToEven, hq]
  split
  case isTrue hdown => omega
  case isFalse hdown =>
    split
    case isTrue hup => omega
    case isFalse hup => omega

/-- Between the multiples before and at a number of the format the spacing is that of the
multiples. -/
theorem spacing_eq_pow {m scale whole : Nat} (hlow : 2 ^ 52 ≤ m) (hhigh : m < 2 ^ 53)
    (h : m * 2 ^ scale ≤ whole) (h' : whole < (m + 1) * 2 ^ scale) :
    spacing whole = 2 ^ scale := by
  have hge : 2 ^ (52 + scale) ≤ whole := by
    rw [Nat.pow_add]
    exact Nat.le_trans (Nat.mul_le_mul_right _ hlow) h
  have hlt : whole < 2 ^ (53 + scale) := by
    rw [Nat.pow_add]
    exact Nat.lt_of_lt_of_le h' (Nat.mul_le_mul_right _ hhigh)
  have hne : whole ≠ 0 := Nat.ne_of_gt (Nat.lt_of_lt_of_le (Nat.two_pow_pos _) hge)
  have hlog : whole.log2 = 52 + scale := by
    have h₁ := (Nat.le_log2 hne).2 hge
    have h₂ := (Nat.log2_lt hne).2 hlt
    omega
  rw [spacing, hlog, Nat.add_sub_cancel_left]
  rfl

/-- **The least ratio that is rounded to at least a number of the format** is the middle between
that number and the one before it, or what lies just above if the number is odd. -/
theorem mul_pow_le_nearestUnits_iff {m scale num den : Nat} (hden : 0 < den) (hlow : 2 ^ 52 ≤ m)
    (hhigh : m < 2 ^ 53) :
    (m + 1) * 2 ^ scale ≤ nearestUnits num den ↔
      (2 * m + 1) * (den * 2 ^ scale) + (m + 1) % 2 ≤ 2 * num := by
  have hpow : 0 < den * 2 ^ scale := Nat.mul_pos hden (Nat.two_pow_pos scale)
  have hsplit : (2 * m + 1) * (den * 2 ^ scale) =
      2 * (m * (den * 2 ^ scale)) + den * 2 ^ scale := by ring
  have hnext : (m + 1) * (den * 2 ^ scale) = m * (den * 2 ^ scale) + den * 2 ^ scale := by ring
  have hscale : ∀ k, k * 2 ^ scale * den = k * (den * 2 ^ scale) := fun k => by ring
  rcases Nat.lt_or_ge num (m * (den * 2 ^ scale)) with hbelow | hge
  · -- below the number before, and rounded to at most that
    have hround : nearestUnits num den ≤ m * 2 ^ scale := by
      refine nearestUnits_le_of_le_mul hden (spacing_mul_pow_dvd (Nat.le_of_lt hhigh)) ?_
      rw [hscale]
      exact Nat.le_of_lt hbelow
    have hstep : m * 2 ^ scale < (m + 1) * 2 ^ scale :=
      Nat.mul_lt_mul_of_pos_right (Nat.lt_succ_self m) (Nat.two_pow_pos scale)
    constructor
    · intro h
      omega
    · intro h
      omega
  · rcases Nat.lt_or_ge num ((m + 1) * (den * 2 ^ scale)) with hlt | habove
    · -- between the two neighbours
      have hwhole : num / (den * 2 ^ scale) = m :=
        Nat.div_eq_of_lt_le hge hlt
      have hspacing : spacing (num / den) = 2 ^ scale := by
        refine spacing_eq_pow hlow hhigh ?_ ?_
        · refine (Nat.le_div_iff_mul_le hden).2 ?_
          rw [hscale]
          exact hge
        · refine (Nat.div_lt_iff_lt_mul hden).2 ?_
          rw [hscale]
          exact hlt
      have hround : nearestUnits num den = divToEven num (den * 2 ^ scale) * 2 ^ scale := by
        rw [nearestUnits, hspacing]
      rw [hround, Nat.mul_le_mul_right_iff (Nat.two_pow_pos scale)]
      exact succ_le_divToEven_iff hwhole
    · -- from the number on, and rounded to at least that
      have hround : (m + 1) * 2 ^ scale ≤ nearestUnits num den := by
        refine le_nearestUnits_of_mul_le hden (spacing_mul_pow_dvd hhigh) ?_
        rw [hscale]
        exact habove
      constructor
      · intro h
        omega
      · intro h
        exact hround

/-! ### The distance to the exact ratio -/

/-- The multiple of the spacing below a magnitude is the greatest number of the format there. -/
theorem le_div_mul_spacing {units whole : Nat} (h : Representable units) (hle : units ≤ whole) :
    units ≤ whole / spacing whole * spacing whole := by
  have hfloor : ∀ {start}, spacing whole ∣ start → start ≤ whole →
      start ≤ whole / spacing whole * spacing whole := by
    rintro _ ⟨count, rfl⟩ hstart
    rw [Nat.mul_comm] at hstart ⊢
    exact Nat.mul_le_mul_right _ ((Nat.le_div_iff_mul_le (spacing_pos whole)).2 hstart)
  rcases Nat.lt_or_ge (units.log2 - 52) (whole.log2 - 52) with hlt | hge
  · -- the start of the greater binade lies between the two
    have hstart := pow_le_of_spacing rfl (Nat.zero_lt_of_lt hlt)
    have hbelow := lt_pow_of_spacing hlt
    obtain ⟨count, hcount⟩ :=
      exists_pow_eq_mul_spacing whole (k := 52 + (whole.log2 - 52)) (by omega)
    exact Nat.le_trans (Nat.le_of_lt hbelow)
      (hfloor ⟨count, by rw [hcount, Nat.mul_comm]⟩ hstart)
  · have hspacing : spacing whole ∣ spacing units := Nat.pow_dvd_pow 2 hge
    exact hfloor (Nat.dvd_trans hspacing (spacing_dvd h)) hle

/-- **No smaller number of the format is nearer to a magnitude than the rounded one.** -/
theorem nearestUnits_add_le {units whole : Nat} (h : Representable units) (hle : units ≤ whole) :
    nearestUnits whole 1 + units ≤ 2 * whole := by
  have hfloor := le_div_mul_spacing h hle
  have hmod := Nat.div_add_mod whole (spacing whole)
  have hpos := spacing_pos whole
  have hnext : (whole / spacing whole + 1) * spacing whole =
      whole / spacing whole * spacing whole + spacing whole := by ring
  rw [Nat.mul_comm] at hmod
  simp only [nearestUnits, divToEven, Nat.div_one, Nat.one_mul]
  split
  case isTrue hdown => omega
  case isFalse hdown =>
    split
    case isTrue hup => omega
    case isFalse hup =>
      have htie : 2 * (whole % spacing whole) = spacing whole := by omega
      rcases Nat.mod_two_eq_zero_or_one (whole / spacing whole) with heven | hodd
      · rw [heven, Nat.add_zero]
        omega
      · rw [hodd]
        omega

/-- A magnitude is not rounded to less than its half. -/
theorem le_two_mul_nearestUnits (whole : Nat) : whole ≤ 2 * nearestUnits whole 1 := by
  rcases Nat.eq_zero_or_pos whole with rfl | hpos
  · exact Nat.zero_le _
  · have hspacing : spacing whole ≤ whole :=
      Nat.le_trans (Nat.pow_le_pow_right (by decide) (Nat.sub_le _ _))
        (Nat.log2_self_le (Nat.ne_of_gt hpos))
    have hmod := Nat.mod_lt whole (spacing_pos whole)
    have hdiv := Nat.div_add_mod whole (spacing whole)
    have hquot : 1 ≤ whole / spacing whole := Nat.div_pos hspacing (spacing_pos whole)
    have hfloor : whole / spacing whole * spacing whole ≤ nearestUnits whole 1 := by
      have h := @mul_le_nearestUnits whole 1 (whole / spacing whole) Nat.one_pos
      rw [Nat.div_one] at h
      refine h ?_
      rw [Nat.mul_one]
      exact Nat.div_mul_le_self _ _
    have hone : 1 * spacing whole ≤ whole / spacing whole * spacing whole :=
      Nat.mul_le_mul_right _ hquot
    rw [Nat.mul_comm] at hdiv
    omega

/-! ### Amounts -/

theorem IsAmount.eq_of_extent_eq {x y : Binary64} (hx : x.IsAmount) (hy : y.IsAmount)
    (h : x.extent = y.extent) : x = y := by
  have hinfinite : (infinite false).extent = unitsLimit := rfl
  rcases hx.eq_finite_or with ⟨u, hu, rfl⟩ | rfl
  · have hu' := hu.1
    rcases hy.eq_finite_or with ⟨v, hv, rfl⟩ | rfl
    · rw [extent, extent, withSign_false, withSign_false] at h
      have huv : u = v := Int.ofNat_inj.1 h
      subst huv
      rfl
    · rw [hinfinite, extent, withSign_false] at h
      omega
  · rcases hy.eq_finite_or with ⟨v, hv, rfl⟩ | rfl
    · have hv' := hv.1
      rw [hinfinite, extent, withSign_false] at h
      omega
    · rfl

/-- An amount does not shrink when another one is added. -/
theorem IsAmount.extent_le_add {x y : Binary64} (hx : x.IsAmount) (hy : y.IsAmount) :
    x.extent ≤ (x + y).extent := by
  rcases hx.eq_finite_or with ⟨u, hu, rfl⟩ | rfl
  · rcases hy.eq_finite_or with ⟨v, hv, rfl⟩ | rfl
    · have hmono : nearestUnits u 1 ≤ nearestUnits (u + v) 1 :=
        nearestUnits_mono Nat.one_pos (Nat.le_add_right u v)
      have hlimit := hu.1
      rw [nearestUnits_one hu] at hmono
      rw [finite_false_add, extent_ofRatio, extent, withSign_false, withSign_false]
      omega
    · exact Int.le_of_lt (withSign_bounds false hu).2
  · rcases hy.eq_finite_or with ⟨v, hv, rfl⟩ | rfl
    · exact Int.le_refl _
    · exact Int.le_refl _

/-- A sum of amounts reaches what the lower bounds of its parts add up to, as that is rounded. -/
theorem IsAmount.le_extent_add {x y : Binary64} (hx : x.IsAmount) (hy : y.IsAmount) {a b c : Nat}
    (ha : (a : Int) ≤ x.extent) (hb : (b : Int) ≤ y.extent) (hc : c ≤ nearestUnits (a + b) 1)
    (hlimit : c ≤ unitsLimit) : (c : Int) ≤ (x + y).extent := by
  have hinfinite : (infinite false).extent = unitsLimit := rfl
  rcases hx.eq_finite_or with ⟨u, hu, rfl⟩ | rfl
  · rcases hy.eq_finite_or with ⟨v, hv, rfl⟩ | rfl
    · rw [extent, withSign_false] at ha hb
      have hmono : nearestUnits (a + b) 1 ≤ nearestUnits (u + v) 1 :=
        nearestUnits_mono Nat.one_pos (by omega)
      rw [finite_false_add, extent_ofRatio, withSign_false]
      omega
    · change _ ≤ (infinite false).extent
      omega
  · have hsum : infinite false + y = infinite false := by
      rcases hy.eq_finite_or with ⟨v, hv, rfl⟩ | rfl <;> rfl
    rw [hsum, hinfinite]
    omega

/-- A sum of amounts reaches no further than the upper bounds of its parts add up to, as that is
rounded. -/
theorem IsAmount.extent_add_le {x y : Binary64} (hx : x.IsAmount) (hy : y.IsAmount) {a b : Nat}
    (ha : x.extent ≤ a) (hb : y.extent ≤ b) (ha' : a < unitsLimit) (hb' : b < unitsLimit) :
    (x + y).extent ≤ nearestUnits (a + b) 1 := by
  have hinfinite : (infinite false).extent = unitsLimit := rfl
  rcases hx.eq_finite_or with ⟨u, hu, rfl⟩ | rfl
  · rcases hy.eq_finite_or with ⟨v, hv, rfl⟩ | rfl
    · rw [extent, withSign_false] at ha hb
      have hmono : nearestUnits (u + v) 1 ≤ nearestUnits (a + b) 1 :=
        nearestUnits_mono Nat.one_pos (by omega)
      rw [finite_false_add, extent_ofRatio, withSign_false]
      omega
    · omega
  · omega

end ClusterReport.Binary64
