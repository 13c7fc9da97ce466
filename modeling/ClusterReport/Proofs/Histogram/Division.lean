/-
**How the boundaries of a byte distribution divide the buckets.**

The populated buckets are shown in one of two ways.  If they are no more than the ranges asked for,
every one of them has a range of its own, and what lies between two of them is a range in which
nothing is populated.  Otherwise their span is cut into exactly the ranges asked for: the ranges
have one width up to a certain number, and one bucket more from there on, so that the remainder of
the division is spread over the last ones.  Either way each populated bucket lies in exactly one
range.

Main definitions:

* `ClusterReport.Histogram.rangeWidth` — the number of buckets in a range;
* `ClusterReport.Histogram.CutsEvenly` — that ranges cut a span into parts of nearly one width;
* `ClusterReport.Histogram.SinglesOut` — that each of some buckets has a range of its own;
* `ClusterReport.Histogram.Divides` — what it is for boundaries to divide some buckets.

Main results:

* `ClusterReport.Histogram.widths_evenBounds` — the widths between boundaries cut evenly;
* `ClusterReport.Histogram.cutsEvenly_bounds`, `singlesOut_bounds` — the two ways of division;
* `ClusterReport.Histogram.fitsInt64_of_mem_bounds` — the boundaries need no more than 64 bits;
* `ClusterReport.Histogram.divides_bounds` — **the boundaries divide the populated buckets**, for
  any number of ranges that is asked for.
-/

import ClusterReport.Proofs.Histogram.Ranges
import Mathlib.Data.Int.Interval

set_option relaxedAutoImplicit false
set_option autoImplicit false

namespace ClusterReport.Histogram

/-! ### Widths -/

/-- The number of buckets in a range. -/
def rangeWidth (range : Int × Int) : Int := range.2 - range.1

def widths (bounds : List Int) : List Int := (rangesBetween bounds).map rangeWidth

theorem widths_cons (a b : Int) (rest : List Int) :
    widths (a :: b :: rest) = (b - a) :: widths (b :: rest) := rfl

/-- The first range cut evenly is widened or not, and the others follow it. -/
theorem widths_evenBounds_succ (start width widenFrom : Int) (n : Nat) (index : Int) :
    widths (evenBounds start width widenFrom (n + 1) index) =
      (if index = widenFrom then width + 1 else width) ::
        widths (evenBounds (start + if index = widenFrom then width + 1 else width)
          (if index = widenFrom then width + 1 else width) widenFrom n (index + 1)) := by
  rw [evenBounds_succ]
  generalize (if index = widenFrom then width + 1 else width) = step
  obtain ⟨rest, hrest⟩ := evenBounds_eq_cons (start + step) step widenFrom n (index + 1)
  rw [hrest, widths_cons, add_sub_cancel_left]

theorem widths_evenBounds_of_lt (start width : Int) {widenFrom index : Int} (n : Nat)
    (h : widenFrom < index) :
    widths (evenBounds start width widenFrom n index) = List.replicate n width := by
  induction n generalizing start index with
  | zero => rfl
  | succ n ih =>
      rw [widths_evenBounds_succ, if_neg (by omega), ih _ (by omega), List.replicate_succ]

/-- **The widths between boundaries cut evenly**: one width for as many ranges as there are before
the widened ones, and one bucket more for all others. -/
theorem widths_evenBounds (start width index : Int) (narrow wide : Nat) :
    widths (evenBounds start width (index + narrow) (narrow + wide) index) =
      List.replicate narrow width ++ List.replicate wide (width + 1) := by
  induction narrow generalizing start index with
  | zero =>
      cases wide with
      | zero => rfl
      | succ wide =>
          rw [Nat.zero_add, widths_evenBounds_succ, if_pos (by simp),
            widths_evenBounds_of_lt _ _ _ (by simp)]
          rfl
  | succ narrow ih =>
      have hindex : index + (narrow + 1 : Nat) = index + 1 + narrow := by
        push_cast
        ring
      rw [Nat.succ_add, widths_evenBounds_succ, if_neg (by omega), hindex, ih,
        List.replicate_succ, List.cons_append]

/-! ### A span cut evenly -/

variable {populated : List Int} {first last : Int} {bucketCount : Nat}

theorem length_le_span (h : populated.Pairwise (· < ·)) (hfirst : populated.head? = some first)
    (hlast : populated.getLast? = some last) : (populated.length : Int) ≤ last - first + 1 := by
  have hsubset : populated.toFinset ⊆ Finset.Icc first last := by
    intro b hb
    rw [List.mem_toFinset] at hb
    exact Finset.mem_Icc.2 ⟨le_of_head? h hfirst b hb, le_of_getLast? h hlast b hb⟩
  have hcard : populated.toFinset.card = populated.length :=
    List.toFinset_card_of_nodup (h.imp fun hlt => ne_of_lt hlt)
  have hle : first ≤ last := le_of_getLast? h hlast first (List.mem_of_mem_head? hfirst)
  have hroom := Finset.card_le_card hsubset
  rw [hcard, Int.card_Icc] at hroom
  omega

/-- Where the buckets outnumber the ranges, these have one width of at least one bucket, and from
some range on one bucket more. -/
theorem exists_widths_bounds (h : populated.Pairwise (· < ·)) (hcount : 0 < bucketCount)
    (hmany : bucketCount < populated.length) (hfirst : populated.head? = some first)
    (hlast : populated.getLast? = some last) :
    ∃ (width : Int) (narrow wide : Nat), 1 ≤ width ∧ narrow + wide = bucketCount ∧
      widths (bounds populated bucketCount) =
        List.replicate narrow width ++ List.replicate wide (width + 1) := by
  have hmax : max bucketCount 1 = bucketCount := Nat.max_eq_left hcount
  have hpos : (0 : Int) < bucketCount := Int.natCast_pos.2 hcount
  have hspan : (bucketCount : Int) ≤ last - first + 1 :=
    le_trans (Int.ofNat_le.2 hmany.le) (length_le_span h hfirst hlast)
  -- the remainder of the division says how many ranges are wider
  obtain ⟨wide, hwide⟩ := Int.eq_ofNat_of_zero_le
    (Int.emod_nonneg (last - first + 1) (ne_of_gt hpos))
  have hlt := Int.emod_lt_of_pos (last - first + 1) hpos
  obtain ⟨narrow, hnarrow⟩ : ∃ narrow : Nat, narrow + wide = bucketCount :=
    ⟨bucketCount - wide, by omega⟩
  refine ⟨(last - first + 1) / bucketCount, narrow, wide,
    (Int.le_ediv_iff_mul_le hpos).2 (by omega), hnarrow, ?_⟩
  have hfrom : (bucketCount : Int) - (last - first + 1) % bucketCount = 0 + narrow := by omega
  rw [bounds_of_ends hfirst hlast, hmax, if_neg (by omega), hfrom, ← hnarrow, widths_evenBounds]

/-- What it is for ranges to cut the span from one bucket to another into a number of parts of
nearly one width: every bucket of the span, and no other one, lies in exactly one of them, and they
grow by one bucket at most, from left to right. -/
structure CutsEvenly (first last : Int) (count : Nat) (ranges : List (Int × Int)) : Prop where
  length_eq : ranges.length = count
  countP_eq : ∀ bucket, ranges.countP (inRange bucket) =
    if first ≤ bucket ∧ bucket ≤ last then 1 else 0
  one_le_width : ∀ range ∈ ranges, 1 ≤ rangeWidth range
  width_le_succ : ∀ range ∈ ranges, ∀ other ∈ ranges, rangeWidth range ≤ rangeWidth other + 1
  pairwise_width : ranges.Pairwise fun range later => rangeWidth range ≤ rangeWidth later

/-- In the boundaries of populated buckets, every bucket of the span lies in exactly one range, and
every other one in none. -/
theorem countP_rangesBetween_bounds (h : populated.Pairwise (· < ·))
    (hfirst : populated.head? = some first) (hlast : populated.getLast? = some last)
    (bucketCount : Nat) (bucket : Int) :
    (rangesBetween (bounds populated bucketCount)).countP (inRange bucket) =
      if first ≤ bucket ∧ bucket ≤ last then 1 else 0 := by
  rw [countP_rangesBetween (pairwise_bounds h bucketCount) (head?_bounds hfirst hlast bucketCount)
    (getLast?_bounds hfirst hlast bucketCount)]
  simp only [Int.lt_add_one_iff]

/-- **Buckets that outnumber the ranges have their span cut evenly.** -/
theorem cutsEvenly_bounds (h : populated.Pairwise (· < ·)) (hcount : 0 < bucketCount)
    (hmany : bucketCount < populated.length) (hfirst : populated.head? = some first)
    (hlast : populated.getLast? = some last) :
    CutsEvenly first last bucketCount (rangesBetween (bounds populated bucketCount)) := by
  obtain ⟨width, narrow, wide, hwidth, hsum, hwidths⟩ :=
    exists_widths_bounds h hcount hmany hfirst hlast
  have hmem : ∀ range ∈ rangesBetween (bounds populated bucketCount),
      rangeWidth range = width ∨ rangeWidth range = width + 1 := by
    intro range hrange
    have hin : rangeWidth range ∈ widths (bounds populated bucketCount) :=
      List.mem_map_of_mem hrange
    rw [hwidths, List.mem_append] at hin
    exact hin.imp List.eq_of_mem_replicate List.eq_of_mem_replicate
  constructor
  case length_eq =>
    have hlength := congrArg List.length hwidths
    rw [widths, List.length_map, List.length_append, List.length_replicate,
      List.length_replicate, hsum] at hlength
    exact hlength
  case countP_eq => exact countP_rangesBetween_bounds h hfirst hlast bucketCount
  case one_le_width =>
    intro range hrange
    rcases hmem range hrange with heq | heq <;> omega
  case width_le_succ =>
    intro range hrange other hother
    rcases hmem range hrange with heq | heq <;> rcases hmem other hother with heq' | heq' <;> omega
  case pairwise_width =>
    have hpair : (widths (bounds populated bucketCount)).Pairwise (· ≤ ·) := by
      rw [hwidths, List.pairwise_append]
      refine ⟨List.pairwise_replicate.2 (.inr le_rfl), List.pairwise_replicate.2 (.inr le_rfl),
        fun a ha b hb => ?_⟩
      rw [List.eq_of_mem_replicate ha, List.eq_of_mem_replicate hb]
      omega
    exact List.pairwise_map.1 hpair

/-! ### One range for each bucket -/

/-- What it is for ranges to single out some buckets: each of these has a range of its own, and
none of them lies in any other range. -/
structure SinglesOut (populated : List Int) (ranges : List (Int × Int)) : Prop where
  own_mem : ∀ bucket ∈ populated, (bucket, bucket + 1) ∈ ranges
  inRange_eq_false : ∀ range ∈ ranges, (∀ bucket ∈ populated, range ≠ (bucket, bucket + 1)) →
    ∀ bucket ∈ populated, inRange bucket range = false

theorem mem_rangesBetween_append (before : List Int) (a b : Int) (behind : List Int) :
    (a, b) ∈ rangesBetween (before ++ a :: b :: behind) := by
  induction before with
  | nil => exact List.mem_cons_self
  | cons c rest ih =>
      obtain ⟨d, tail, htail⟩ : ∃ d tail, rest ++ a :: b :: behind = d :: tail :=
        List.exists_cons_of_ne_nil (by simp)
      rw [htail] at ih
      rw [List.cons_append, htail, rangesBetween_cons]
      exact List.mem_cons_of_mem _ ih

theorem eq_of_inRange {ranges : List (Int × Int)} {bucket : Int}
    (hcount : ranges.countP (inRange bucket) = 1) {range other : Int × Int}
    (hrange : range ∈ ranges) (hother : other ∈ ranges) (hin : inRange bucket range = true)
    (hin' : inRange bucket other = true) : range = other := by
  rw [List.countP_eq_length_filter, List.length_eq_one_iff] at hcount
  obtain ⟨only, honly⟩ := hcount
  have heq : ∀ r ∈ ranges, inRange bucket r = true → r = only := fun r hr hbucket => by
    have hmem : r ∈ ranges.filter (inRange bucket) := List.mem_filter.2 ⟨hr, hbucket⟩
    rw [honly] at hmem
    exact List.mem_singleton.1 hmem
  rw [heq range hrange hin, heq other hother hin']

/-- **Buckets that do not outnumber the ranges are singled out.** -/
theorem singlesOut_bounds (hfew : populated.length ≤ bucketCount)
    (hcount : ∀ bucket ∈ populated,
      (rangesBetween (bounds populated bucketCount)).countP (inRange bucket) = 1) :
    SinglesOut populated (rangesBetween (bounds populated bucketCount)) := by
  have hown : ∀ bucket ∈ populated,
      (bucket, bucket + 1) ∈ rangesBetween (bounds populated bucketCount) := by
    intro bucket hbucket
    obtain ⟨before, behind, hsplit⟩ := List.append_of_mem hbucket
    have hbounds : bounds populated bucketCount = populated.flatMap fun b => [b, b + 1] :=
      if_pos (le_trans hfew (Nat.le_max_left bucketCount 1))
    rw [hbounds, hsplit, List.flatMap_append, List.flatMap_cons]
    exact mem_rangesBetween_append _ _ _ _
  refine ⟨hown, fun range hrange hnot bucket hbucket => Bool.eq_false_iff.2 fun hin => ?_⟩
  -- the bucket lies in its own range, and there is no second one
  have hself : inRange bucket (bucket, bucket + 1) = true := by simp [inRange]
  exact hnot bucket hbucket
    (eq_of_inRange (hcount bucket hbucket) hrange (hown bucket hbucket) hin hself)

/-! ### Room for the boundaries -/

theorem mem_bounds_between (h : populated.Pairwise (· < ·)) (hfirst : populated.head? = some first)
    (hlast : populated.getLast? = some last) {b : Int} (hb : b ∈ bounds populated bucketCount) :
    first ≤ b ∧ b ≤ last + 1 := by
  have hsorted := pairwise_bounds h bucketCount
  constructor
  · obtain ⟨rest, hrest⟩ := List.head?_eq_some_iff.1 (head?_bounds hfirst hlast bucketCount)
    rw [hrest] at hb hsorted
    rcases List.mem_cons.1 hb with rfl | hb
    · exact le_rfl
    · exact (List.pairwise_cons.1 hsorted).1 b hb
  · obtain ⟨front, hfront⟩ :=
      List.getLast?_eq_some_iff.1 (getLast?_bounds hfirst hlast bucketCount)
    rw [hfront] at hb hsorted
    rcases List.mem_append.1 hb with hb | hb
    · exact (List.pairwise_append.1 hsorted).2.2 b hb _ List.mem_cons_self
    · exact le_of_eq (List.mem_singleton.1 hb)

/-- The boundaries fit 64 bits wherever the buckets and their ends do. -/
theorem fitsInt64_of_mem_bounds (h : populated.Pairwise (· < ·))
    (hfits : ∀ bucket ∈ populated, Integer.fitsInt64 bucket ∧ Integer.fitsInt64 (bucket + 1))
    {b : Int} (hb : b ∈ bounds populated bucketCount) : Integer.fitsInt64 b := by
  obtain hnil | ⟨first, last, hfirst, hlast⟩ := eq_nil_or_ends populated
  · rw [hnil, bounds_nil] at hb
    cases hb
  · have hstart := (Integer.fitsInt64_iff _).1 (hfits first (List.mem_of_mem_head? hfirst)).1
    have hend := (Integer.fitsInt64_iff _).1 (hfits last (List.mem_of_getLast? hlast)).2
    obtain ⟨hlow, hhigh⟩ := mem_bounds_between h hfirst hlast hb
    exact (Integer.fitsInt64_iff b).2 ⟨hstart.1.trans hlow, hhigh.trans hend.2⟩

/-! ### Division -/

/-- What it is for boundaries to divide some buckets, given in increasing order, into a number of
ranges: they never decrease and have each bucket in exactly one range.  If the buckets outnumber the
ranges their span is cut evenly, and otherwise each of them is singled out. -/
structure Divides (populated : List Int) (count : Nat) (bounds : List Int) : Prop where
  pairwise_le : bounds.Pairwise (· ≤ ·)
  countP_eq_one : ∀ bucket ∈ populated, (rangesBetween bounds).countP (inRange bucket) = 1
  cutsEvenly : count < populated.length → ∃ first last, populated.head? = some first ∧
    populated.getLast? = some last ∧ CutsEvenly first last count (rangesBetween bounds)
  singlesOut : populated.length ≤ count → SinglesOut populated (rangesBetween bounds)

/-- **The boundaries divide the populated buckets** into the ranges that were asked for, whatever
the buckets are. -/
theorem divides_bounds (h : populated.Pairwise (· < ·)) (hcount : 0 < bucketCount) :
    Divides populated bucketCount (bounds populated bucketCount) := by
  have hone : ∀ bucket ∈ populated,
      (rangesBetween (bounds populated bucketCount)).countP (inRange bucket) = 1 := by
    intro bucket hbucket
    obtain hnil | ⟨first, last, hfirst, hlast⟩ := eq_nil_or_ends populated
    · rw [hnil] at hbucket
      cases hbucket
    · rw [countP_rangesBetween_bounds h hfirst hlast]
      exact if_pos ⟨le_of_head? h hfirst bucket hbucket, le_of_getLast? h hlast bucket hbucket⟩
  constructor
  case pairwise_le => exact pairwise_bounds h bucketCount
  case countP_eq_one => exact hone
  case cutsEvenly =>
    intro hmany
    obtain hnil | ⟨first, last, hfirst, hlast⟩ := eq_nil_or_ends populated
    · rw [hnil] at hmany
      cases hmany
    · exact ⟨first, last, hfirst, hlast, cutsEvenly_bounds h hcount hmany hfirst hlast⟩
  case singlesOut => exact fun hfew => singlesOut_bounds hfew hone

/-- Fourteen buckets do not divide by four, so that the last two ranges are wider; two buckets are
singled out, with what lies between them. -/
theorem divides_bounds_sparse :
    Divides [1, 2, 5, 6, 9, 14] 4 [1, 4, 7, 11, 15] ∧ Divides [2, 5] 5 [2, 3, 5, 6] :=
  ⟨(divides_bounds (by decide) (by decide) :
      Divides [1, 2, 5, 6, 9, 14] 4 (bounds [1, 2, 5, 6, 9, 14] 4)),
    (divides_bounds (by decide) (by decide) : Divides [2, 5] 5 (bounds [2, 5] 5))⟩

end ClusterReport.Histogram
