/-
**How far a size is shown.**

A size is shown as a whole number of the greatest unit that it reaches, and what is left over is cut
off.  Without the blank before its unit and the letter that all units end in, the text is a label,
and the size that this stands for is the greatest whole number of the unit that is not above the one
shown.  So the number stays below the 1024 that make the next unit, as long as there is one, and of
two sizes the greater one is never shown as less.

Main definitions:

* `ClusterReport.ByteSize.greatestUnit`, `unitOf` — the greatest unit there is, and the greatest one
  that a size reaches;
* `ClusterReport.ByteSize.unitLetter` — the letter of a unit;
* `ClusterReport.ByteSize.IsCutOff` — that a size is another one cut off to a unit;
* `ClusterReport.ByteSize.labelOf` — the text of a size as a label;
* `ClusterReport.ByteSize.IsShownAs` — what it is for a size to be shown as a number of units;
* `ClusterReport.ByteSize.ShowsWholeUnits` — and to be shown so in the order of the sizes.

Main results:

* `ClusterReport.ByteSize.find?_units` — the unit that a size is shown in;
* `ClusterReport.ByteSize.toList_toText` — the text of a size;
* `ClusterReport.ByteSize.ofLabel?_toDigits_append` — a number with the letter of a unit is read as
  that number of units;
* `ClusterReport.ByteSize.IsCutOff.mono` — sizes that are cut off stay in order;
* `ClusterReport.ByteSize.isShownAs_unitOf` — the number of units that a size is shown as;
* `ClusterReport.ByteSize.showsWholeUnits_of_nonneg` — **sizes are read back from their texts cut
  off to whole units, and in order**.
-/

import ClusterReport.Histogram.Distribution
import Mathlib.Data.Nat.Find
import Mathlib.Order.Bounds.Basic
import Mathlib.Tactic.IntervalCases

set_option relaxedAutoImplicit false
set_option autoImplicit false

namespace ClusterReport.ByteSize

/-! ### Units -/

/-- The greatest unit in which sizes are shown. -/
def greatestUnit : Nat := 5

/-- The greatest unit that a size reaches; one that reaches none is shown in bytes. -/
def unitOf (bytes : Int) : Nat :=
  Nat.findGreatest (fun unit => (bytesPer unit : Int) ≤ bytes) greatestUnit

/-- The letter of a unit; bytes have none. -/
def unitLetter : Nat → List Char
  | 1 => ['K']
  | 2 => ['M']
  | 3 => ['G']
  | 4 => ['T']
  | 5 => ['P']
  | _ => []

@[simp] theorem unitLetter_zero : unitLetter 0 = [] := rfl

def unitEntry (unit : Nat) : Int × String :=
  (bytesPer unit, String.ofList (' ' :: (unitLetter unit ++ ['B'])))

/-- The table of the units up to some unit, greatest first. -/
def unitsUpTo : Nat → List (Int × String)
  | 0 => [unitEntry 0]
  | unit + 1 => unitEntry (unit + 1) :: unitsUpTo unit

theorem units_eq : units = unitsUpTo greatestUnit := rfl

theorem find?_unitsUpTo (bytes : Int) (last : Nat) :
    ((unitsUpTo last).find? fun unit => unit.1 ≤ bytes).getD (unitEntry 0) =
      unitEntry (Nat.findGreatest (fun unit => (bytesPer unit : Int) ≤ bytes) last) := by
  induction last with
  | zero =>
      rw [Nat.findGreatest_zero, unitsUpTo, List.find?_singleton]
      split <;> rfl
  | succ last ih =>
      rw [unitsUpTo, List.find?_cons, Nat.findGreatest_succ]
      by_cases h : (bytesPer (last + 1) : Int) ≤ bytes
      · rw [if_pos h, show decide ((unitEntry (last + 1)).1 ≤ bytes) = true from decide_eq_true h]
        rfl
      · rw [if_neg h, ← ih,
          show decide ((unitEntry (last + 1)).1 ≤ bytes) = false from decide_eq_false h]

/-- **The unit that a size is shown in** is the greatest one that it reaches. -/
theorem find?_units (bytes : Int) :
    (units.find? fun unit => unit.1 ≤ bytes).getD (1, " B") = unitEntry (unitOf bytes) := by
  rw [units_eq]
  exact find?_unitsUpTo bytes greatestUnit

theorem unitOf_le (bytes : Int) : unitOf bytes ≤ greatestUnit := Nat.findGreatest_le _

theorem lt_bytesPer {bytes : Int} {unit : Nat} (h : unitOf bytes < unit)
    (hle : unit ≤ greatestUnit) : bytes < bytesPer unit :=
  Int.not_le.1 (Nat.findGreatest_is_greatest h hle)

/-- A size reaches its unit unless it is shown in bytes. -/
theorem unitOf_eq_zero_or (bytes : Int) :
    unitOf bytes = 0 ∨ (bytesPer (unitOf bytes) : Int) ≤ bytes :=
  or_iff_not_imp_left.2 (Nat.findGreatest_of_ne_zero rfl)

theorem isBlank_of_mem_unitLetter {unit : Nat} {c : Char} (h : c ∈ unitLetter unit) :
    Text.isBlank c = false := by
  unfold unitLetter at h
  split at h
  case h_6 => cases h
  all_goals
    rw [List.mem_singleton.1 h]
    rfl

/-! ### Texts -/

/-- **The text of a size**: how many of its unit it has, a blank, and the unit. -/
theorem toList_toText (n : Nat) :
    (toText n).toList = Nat.toDigits 10 (n / bytesPer (unitOf n)) ++
      ' ' :: (unitLetter (unitOf n) ++ ['B']) := by
  have htext : toText n = toString ((n : Int).tdiv (bytesPer (unitOf n))) ++
      (unitEntry (unitOf n)).2 := by
    rw [toText, find?_units]
    rfl
  rw [htext, String.toList_append, ← Int.ofNat_tdiv, ← Integer.ofList_toText,
    Integer.toText_natCast, unitEntry, String.toList_ofList, String.toList_ofList]

/-- The text of a size as a label: without the blank, and without the last letter. -/
def labelOf (bytes : Int) : List Char := (Histogram.compactSize bytes).toList.dropLast

theorem labelOf_natCast (n : Nat) :
    labelOf n = Nat.toDigits 10 (n / bytesPer (unitOf n)) ++ unitLetter (unitOf n) := by
  have hkeep : ∀ s : List Char, (∀ c ∈ s, Text.isBlank c = false) →
      s.filter (· ≠ ' ') = s := by
    intro s hs
    refine List.filter_eq_self.2 fun c hc => decide_eq_true ?_
    rintro rfl
    cases hs ' ' hc
  rw [labelOf, Histogram.compactSize, String.toList_ofList, toList_toText, List.filter_append,
    hkeep _ fun c => Text.isBlank_of_mem_toDigits, List.filter_cons_of_neg (by decide),
    List.filter_append, hkeep _ fun c => isBlank_of_mem_unitLetter, ← List.append_assoc]
  exact List.dropLast_concat

/-! ### Reading -/

theorem letterFactor?_of_isDigit {c : Char} (h : c.isDigit = true) : letterFactor? c = none := by
  unfold letterFactor?
  split
  case h_7 => rfl
  all_goals cases h

theorem unitLetter_cases {unit : Nat} (h : unit ≤ greatestUnit) :
    unit = 0 ∨ ∃ c, unitLetter unit = [c] ∧ letterFactor? c = some (bytesPer unit) := by
  unfold greatestUnit at h
  interval_cases unit
  · exact .inl rfl
  all_goals exact .inr ⟨_, rfl, rfl⟩

/-- **A number with the letter of a unit is read as that number of units.** -/
theorem ofLabel?_toDigits_append {number unit : Nat} (hunit : unit ≤ greatestUnit)
    (hfits : number * bytesPer unit ≤ Integer.nat64Max) :
    ofLabel? (Nat.toDigits 10 number ++ unitLetter unit) = some (number * bytesPer unit) := by
  have hnumber : Integer.nat64Of? (Nat.toDigits 10 number) = some number :=
    Integer.nat64Of?_toDigits number
      ((Nat.le_mul_of_pos_right number (bytesPer_pos unit)).trans hfits)
  have htrim : Text.trim (Nat.toDigits 10 number ++ unitLetter unit) =
      Nat.toDigits 10 number ++ unitLetter unit := by
    refine Text.trim_of_none fun c hc => ?_
    exact (List.mem_append.1 hc).elim Text.isBlank_of_mem_toDigits isBlank_of_mem_unitLetter
  rw [ofLabel?, htrim]
  rcases unitLetter_cases hunit with rfl | ⟨letter, hletter, hfactor⟩
  · -- the last character is a digit
    have hlast : (Nat.toDigits 10 number).getLast?.bind letterFactor? = none := by
      refine Option.bind_eq_none_iff.2 fun c hc => letterFactor?_of_isDigit ?_
      exact Nat.isDigit_of_mem_toDigits (by decide) (by decide) (List.mem_of_getLast? hc)
    rw [unitLetter_zero, List.append_nil, hlast, bytesPer_zero, Nat.mul_one]
    exact hnumber
  · have hlast : (Nat.toDigits 10 number ++ [letter]).getLast?.bind letterFactor? =
        some (bytesPer unit) := by
      rw [List.getLast?_concat, Option.bind_some, hfactor]
    rw [hletter, hlast, List.dropLast_concat, hnumber]
    exact Option.filter_some_pos (decide_eq_true hfits)

/-! ### Sizes that are cut off -/

/-- What it is for a size to be another one cut off to a unit: the unit is the greatest one that the
other size reaches, or bytes if it reaches none, and the size is the greatest multiple of the unit
that is not above the other one. -/
structure IsCutOff (bytes : Int) (unit size : Nat) : Prop where
  isGreatest_unit :
    IsGreatest {k | k ≤ greatestUnit ∧ (k = 0 ∨ (bytesPer k : Int) ≤ bytes)} unit
  isGreatest_size : IsGreatest {m : Nat | bytesPer unit ∣ m ∧ (m : Int) ≤ bytes} size

theorem isGreatest_unitOf (bytes : Int) :
    IsGreatest {k | k ≤ greatestUnit ∧ (k = 0 ∨ (bytesPer k : Int) ≤ bytes)} (unitOf bytes) := by
  refine ⟨⟨unitOf_le bytes, unitOf_eq_zero_or bytes⟩, ?_⟩
  rintro k ⟨hk, rfl | hreached⟩
  · exact Nat.zero_le _
  · exact Nat.le_findGreatest hk hreached

theorem isCutOff_unitOf (n : Nat) :
    IsCutOff n (unitOf n) (n / bytesPer (unitOf n) * bytesPer (unitOf n)) := by
  refine ⟨isGreatest_unitOf n, ⟨Nat.dvd_mul_left _ _, ?_⟩, ?_⟩
  · exact Int.ofNat_le.2 (Nat.div_mul_le_self _ _)
  · rintro m ⟨⟨k, rfl⟩, hle⟩
    have hk : k ≤ n / bytesPer (unitOf n) := by
      rw [Nat.le_div_iff_mul_le (bytesPer_pos _), Nat.mul_comm]
      exact Int.ofNat_le.1 hle
    rw [Nat.mul_comm]
    exact Nat.mul_le_mul_right _ hk

/-- **Sizes that are cut off stay in order.** -/
theorem IsCutOff.mono {bytes more : Int} {unit other size size' : Nat}
    (h : IsCutOff bytes unit size) (h' : IsCutOff more other size') (hle : bytes ≤ more) :
    size ≤ size' := by
  obtain ⟨⟨hunit, hreached⟩, hgreatest⟩ := h.isGreatest_unit
  obtain ⟨⟨hother, hreached'⟩, hgreatest'⟩ := h'.isGreatest_unit
  have hunits : unit ≤ other := hgreatest' ⟨hunit, hreached.imp_right fun hr => hr.trans hle⟩
  obtain ⟨⟨hdvd, hsize⟩, -⟩ := h.isGreatest_size
  rcases hunits.eq_or_lt with rfl | hlt
  · exact h'.isGreatest_size.2 ⟨hdvd, hsize.trans hle⟩
  · -- the greater size reaches a unit that the other one lies below
    have hone : bytesPer other ≤ size' :=
      h'.isGreatest_size.2 ⟨dvd_rfl, hreached'.resolve_left (by omega)⟩
    have hbelow : bytes < bytesPer other := by
      refine Int.not_le.1 fun hr => ?_
      exact absurd (hgreatest ⟨hother, .inr hr⟩) (Nat.not_le_of_gt hlt)
    exact (Int.ofNat_le.1 (hsize.trans hbelow.le)).trans hone

/-- Below the next unit there is room for less than 1024 of a unit. -/
theorem div_bytesPer_lt_or (n : Nat) :
    n / bytesPer (unitOf n) < 1024 ∨ unitOf n = greatestUnit := by
  refine (unitOf_le n).lt_or_eq.imp_left fun hlt => Nat.div_lt_of_lt_mul ?_
  rw [← bytesPer_succ]
  exact Int.ofNat_lt.1 (lt_bytesPer (Nat.lt_succ_self _) hlt)

/-! ### What sizes are shown as -/

/-- What it is for a size to be shown as a number of units.  The text is the number, a blank, and
the unit with its last letter; the label, which leaves out the blank and this letter, is read as the
size cut off to the unit; and the number is below 1024 unless there is no greater unit. -/
structure IsShownAs (bytes : Int) (number unit : Nat) : Prop where
  toList_toText : (toText bytes).toList =
    Nat.toDigits 10 number ++ ' ' :: (unitLetter unit ++ ['B'])
  labelOf_eq : labelOf bytes = Nat.toDigits 10 number ++ unitLetter unit
  ofLabel?_labelOf : ofLabel? (labelOf bytes) = some (number * bytesPer unit)
  isCutOff : IsCutOff bytes unit (number * bytesPer unit)
  lt_or_eq : number < 1024 ∨ unit = greatestUnit

/-- **The number of units that a size is shown as** is that of those that it has. -/
theorem isShownAs_unitOf {n : Nat} (h : n ≤ Integer.nat64Max) :
    IsShownAs n (n / bytesPer (unitOf n)) (unitOf n) where
  toList_toText := toList_toText n
  labelOf_eq := labelOf_natCast n
  ofLabel?_labelOf := by
    rw [labelOf_natCast]
    exact ofLabel?_toDigits_append (unitOf_le n) ((Nat.div_mul_le_self _ _).trans h)
  isCutOff := isCutOff_unitOf n
  lt_or_eq := div_bytesPer_lt_or n

theorem exists_isShownAs {bytes : Int} (h : 0 ≤ bytes) (hfits : Integer.fitsInt64 bytes = true) :
    ∃ number unit, IsShownAs bytes number unit := by
  obtain ⟨n, rfl⟩ := Int.eq_ofNat_of_zero_le h
  have hmax : n ≤ Integer.nat64Max := by
    have hle := ((Integer.fitsInt64_iff _).1 hfits).2
    unfold Integer.nat64Max
    omega
  exact ⟨_, _, isShownAs_unitOf hmax⟩

/-- What it is for a size to be shown in whole units and in order: it is shown as a number of units,
and what is read from the text of a greater size is no less than what is read from its own. -/
structure ShowsWholeUnits (bytes : Int) : Prop where
  exists_isShownAs : ∃ number unit, IsShownAs bytes number unit
  le_of_le : ∀ more, bytes ≤ more → Integer.fitsInt64 more = true →
    ∃ size size', ofLabel? (labelOf bytes) = some size ∧ ofLabel? (labelOf more) = some size' ∧
      size ≤ size'

/-- **Sizes are read back from their texts cut off to whole units, and in order.** -/
theorem showsWholeUnits_of_nonneg {bytes : Int} (h : 0 ≤ bytes)
    (hfits : Integer.fitsInt64 bytes = true) : ShowsWholeUnits bytes := by
  obtain ⟨number, unit, hshown⟩ := exists_isShownAs h hfits
  refine ⟨⟨number, unit, hshown⟩, fun more hle hfits' => ?_⟩
  obtain ⟨number', unit', hshown'⟩ := exists_isShownAs (h.trans hle) hfits'
  exact ⟨_, _, hshown.ofLabel?_labelOf, hshown'.ofLabel?_labelOf,
    hshown.isCutOff.mono hshown'.isCutOff hle⟩

/-- The greatest size of 64 bits is shown as more than 1024 of the greatest unit. -/
theorem showsWholeUnits_int64Max :
    0 ≤ Integer.int64Max ∧ Integer.fitsInt64 Integer.int64Max = true ∧
      ShowsWholeUnits Integer.int64Max :=
  ⟨by decide, by decide, showsWholeUnits_of_nonneg (by decide) (by decide)⟩

end ClusterReport.ByteSize
