/-
**The ranges of a byte distribution.**

The boundaries of the ranges are cut from the populated buckets in one of two ways, but either way
they never decrease, begin at the first populated bucket and end right behind the last one.  What
lies between neighbouring boundaries therefore tiles the populated span: every bucket of the span
lies in exactly one range, and counts add up over the ranges as they do over the buckets.

Main results:

* `ClusterReport.Histogram.pairwise_bounds`, `head?_bounds`, `getLast?_bounds` — the shape of the
  boundaries;
* `ClusterReport.Histogram.countP_rangesBetween` — **every bucket between the ends lies in exactly
  one range**;
* `ClusterReport.Histogram.sum_rangesBetween` — what adds up from boundary to boundary adds up over
  the ranges.
-/

import ClusterReport.Histogram.Distribution
import Mathlib.Tactic.Linarith
import Mathlib.Tactic.Ring

set_option relaxedAutoImplicit false
set_option autoImplicit false

namespace ClusterReport.Histogram

/-! ### Boundaries cut evenly -/

theorem evenBounds_succ (start width widenFrom : Int) (n : Nat) (index : Int) :
    evenBounds start width widenFrom (n + 1) index =
      start :: evenBounds (start + if index = widenFrom then width + 1 else width)
        (if index = widenFrom then width + 1 else width) widenFrom n (index + 1) := rfl

theorem evenBounds_eq_cons (start width widenFrom : Int) (n : Nat) (index : Int) :
    ∃ rest, evenBounds start width widenFrom n index = start :: rest := by
  cases n with
  | zero => exact ⟨[], rfl⟩
  | succ n => exact ⟨_, evenBounds_succ start width widenFrom n index⟩

theorem pairwise_evenBounds {start width : Int} (h : 0 ≤ width) (widenFrom : Int) (n : Nat)
    (index : Int) :
    (∀ b ∈ evenBounds start width widenFrom n index, start ≤ b) ∧
      (evenBounds start width widenFrom n index).Pairwise (· ≤ ·) := by
  induction n generalizing start width index with
  | zero => simp [evenBounds]
  | succ n ih =>
      have hwidth : 0 ≤ if index = widenFrom then width + 1 else width := by
        split
        · omega
        · exact h
      obtain ⟨hle, hpair⟩ := ih hwidth (index + 1)
      rw [evenBounds_succ]
      have hstart : ∀ b ∈ evenBounds (start + if index = widenFrom then width + 1 else width)
          (if index = widenFrom then width + 1 else width) widenFrom n (index + 1), start ≤ b :=
        fun b hb => le_trans (by omega) (hle b hb)
      refine ⟨fun b hb => ?_, List.pairwise_cons.2 ⟨hstart, hpair⟩⟩
      rcases List.mem_cons.1 hb with rfl | hb
      · exact le_rfl
      · exact hstart b hb

theorem getLast?_evenBounds_succ (start width widenFrom : Int) (n : Nat) (index : Int) :
    (evenBounds start width widenFrom (n + 1) index).getLast? =
      (evenBounds (start + if index = widenFrom then width + 1 else width)
        (if index = widenFrom then width + 1 else width) widenFrom n (index + 1)).getLast? := by
  rw [evenBounds_succ]
  generalize (if index = widenFrom then width + 1 else width) = step
  obtain ⟨rest, hrest⟩ := evenBounds_eq_cons (start + step) step widenFrom n (index + 1)
  rw [hrest, List.getLast?_cons_cons]

theorem getLast?_evenBounds_of_lt (start width : Int) {widenFrom index : Int} (n : Nat)
    (h : widenFrom < index) :
    (evenBounds start width widenFrom n index).getLast? = some (start + n * width) := by
  induction n generalizing start index with
  | zero => simp [evenBounds]
  | succ n ih =>
      rw [getLast?_evenBounds_succ, if_neg (by omega), ih (start + width) (by omega)]
      congr 1
      push_cast
      ring

/-- The last boundary: every range has the width, and those from `widenFrom` on one bucket more. -/
theorem getLast?_evenBounds (start width : Int) {widenFrom index : Int} (n : Nat)
    (h : index ≤ widenFrom) (h' : widenFrom ≤ index + n) :
    (evenBounds start width widenFrom n index).getLast? =
      some (start + n * width + (index + n - widenFrom)) := by
  induction n generalizing start index with
  | zero =>
      have heq : widenFrom = index := by omega
      simp [evenBounds, heq]
  | succ n ih =>
      rw [getLast?_evenBounds_succ]
      by_cases heq : index = widenFrom
      · rw [if_pos heq, getLast?_evenBounds_of_lt _ _ n (by omega), heq]
        congr 1
        push_cast
        ring
      · rw [if_neg heq, ih (start + width) (by omega) (by omega)]
        congr 1
        push_cast
        ring

/-! ### One range per bucket -/

theorem getLast?_flatMap_pair (populated : List Int) :
    (populated.flatMap fun b => [b, b + 1]).getLast? = populated.getLast?.map (· + 1) := by
  induction populated with
  | nil => rfl
  | cons first rest ih =>
      have hlast : (first :: rest).getLast? = some (rest.getLast?.getD first) :=
        List.getLast?_cons
      rw [List.flatMap_cons, List.getLast?_append, ih, hlast]
      cases rest.getLast? <;> rfl

theorem pairwise_flatMap_pair {populated : List Int} (h : populated.Pairwise (· < ·)) :
    (populated.flatMap fun b => [b, b + 1]).Pairwise (· ≤ ·) := by
  rw [List.pairwise_flatMap]
  refine ⟨fun b _ => ?_, h.imp fun {a b} hab x hx y hy => ?_⟩
  · simp
  · simp only [List.mem_cons, List.not_mem_nil, or_false] at hx hy
    omega

/-! ### The boundaries -/

theorem le_of_getLast? {populated : List Int} (h : populated.Pairwise (· < ·)) {last : Int}
    (hlast : populated.getLast? = some last) : ∀ b ∈ populated, b ≤ last := by
  intro b hb
  obtain ⟨front, rfl⟩ := List.getLast?_eq_some_iff.1 hlast
  rw [List.pairwise_append] at h
  rcases List.mem_append.1 hb with hb | hb
  · exact le_of_lt (h.2.2 b hb last List.mem_cons_self)
  · exact le_of_eq (List.mem_singleton.1 hb)

theorem le_of_head? {populated : List Int} (h : populated.Pairwise (· < ·)) {first : Int}
    (hfirst : populated.head? = some first) : ∀ b ∈ populated, first ≤ b := by
  intro b hb
  obtain ⟨rest, rfl⟩ := List.head?_eq_some_iff.1 hfirst
  rcases List.mem_cons.1 hb with rfl | hb
  · exact le_rfl
  · exact le_of_lt ((List.pairwise_cons.1 h).1 b hb)

theorem eq_nil_or_ends (populated : List Int) : populated = [] ∨
    ∃ first last, populated.head? = some first ∧ populated.getLast? = some last := by
  cases populated with
  | nil => exact Or.inl rfl
  | cons first rest => exact Or.inr ⟨first, _, rfl, List.getLast?_cons⟩

@[simp] theorem bounds_nil (bucketCount : Nat) : bounds [] bucketCount = [] := by
  simp [bounds]

/-- The boundaries of populated buckets, of which there is a first and a last one. -/
theorem bounds_of_ends {populated : List Int} {first last : Int}
    (hfirst : populated.head? = some first) (hlast : populated.getLast? = some last)
    (bucketCount : Nat) :
    bounds populated bucketCount =
      if populated.length ≤ max bucketCount 1 then populated.flatMap fun b => [b, b + 1]
      else evenBounds first ((last - first + 1) / (max bucketCount 1 : Nat))
        ((max bucketCount 1 : Nat) - (last - first + 1) % (max bucketCount 1 : Nat))
        (max bucketCount 1) 0 := by
  rw [bounds, hfirst, hlast]

variable {populated : List Int} {first last : Int}

/-- **The boundaries never decrease.** -/
theorem pairwise_bounds (h : populated.Pairwise (· < ·)) (bucketCount : Nat) :
    (bounds populated bucketCount).Pairwise (· ≤ ·) := by
  rcases eq_nil_or_ends populated with hnil | ⟨first, last, hfirst, hlast⟩
  · rw [hnil, bounds_nil]
    exact List.Pairwise.nil
  · have hle : first ≤ last := le_of_getLast? h hlast first (List.mem_of_mem_head? hfirst)
    rw [bounds_of_ends hfirst hlast]
    split
    · exact pairwise_flatMap_pair h
    · exact (pairwise_evenBounds (Int.ediv_nonneg (by omega) (by omega)) _ _ _).2

/-- The first boundary is the first populated bucket. -/
theorem head?_bounds (hfirst : populated.head? = some first)
    (hlast : populated.getLast? = some last) (bucketCount : Nat) :
    (bounds populated bucketCount).head? = some first := by
  rw [bounds_of_ends hfirst hlast]
  split
  · obtain ⟨rest, rfl⟩ := List.head?_eq_some_iff.1 hfirst
    rfl
  · obtain ⟨rest, hrest⟩ := evenBounds_eq_cons first _ _ (max bucketCount 1) 0
    rw [hrest]
    rfl

/-- The last boundary is right behind the last populated bucket. -/
theorem getLast?_bounds (hfirst : populated.head? = some first)
    (hlast : populated.getLast? = some last) (bucketCount : Nat) :
    (bounds populated bucketCount).getLast? = some (last + 1) := by
  rw [bounds_of_ends hfirst hlast]
  split
  · rw [getLast?_flatMap_pair, hlast]
    rfl
  · have hcount : (0 : Int) < (max bucketCount 1 : Nat) := by omega
    have hnonneg := Int.emod_nonneg (last - first + 1) (ne_of_gt hcount)
    have hlt := Int.emod_lt_of_pos (last - first + 1) hcount
    rw [getLast?_evenBounds first _ _ (by omega) (by omega)]
    -- `count` widths and one bucket more for each of the remainder make up the whole span
    have hspan := Int.mul_ediv_add_emod (last - first + 1) (max bucketCount 1 : Nat)
    congr 1
    linarith

/-! ### What lies between boundaries -/

@[simp] theorem rangesBetween_nil : rangesBetween [] = [] := rfl

@[simp] theorem rangesBetween_singleton (b : Int) : rangesBetween [b] = [] := rfl

theorem rangesBetween_cons (a b : Int) (rest : List Int) :
    rangesBetween (a :: b :: rest) = (a, b) :: rangesBetween (b :: rest) := rfl

def inRange (bucket : Int) (range : Int × Int) : Bool := range.1 ≤ bucket && bucket < range.2

/-- **Every bucket between the ends lies in exactly one range**, and every other one in none. -/
theorem countP_rangesBetween {bs : List Int} (h : bs.Pairwise (· ≤ ·))
    (hfirst : bs.head? = some first) (hlast : bs.getLast? = some last) (bucket : Int) :
    (rangesBetween bs).countP (inRange bucket) =
      if first ≤ bucket ∧ bucket < last then 1 else 0 := by
  induction bs generalizing first with
  | nil => simp at hfirst
  | cons a rest ih =>
      obtain rfl : a = first := by simpa using hfirst
      cases rest with
      | nil =>
          obtain rfl : a = last := by simpa using hlast
          simp
      | cons b rest =>
          have hrest := (List.pairwise_cons.1 h).2
          have hlast' : (b :: rest).getLast? = some last := by
            rwa [List.getLast?_cons_cons] at hlast
          have hab : a ≤ b := (List.pairwise_cons.1 h).1 b List.mem_cons_self
          have hbl : b ≤ last := by
            obtain ⟨front, hfront⟩ := List.getLast?_eq_some_iff.1 hlast'
            have hmem : last ∈ b :: rest := by rw [hfront]; simp
            rcases List.mem_cons.1 hmem with rfl | hmem
            · exact le_rfl
            · exact (List.pairwise_cons.1 hrest).1 last hmem
          rw [rangesBetween_cons, List.countP_cons, ih hrest rfl hlast']
          simp only [inRange, Bool.and_eq_true, decide_eq_true_eq]
          split <;> split <;> split <;> omega

/-- **What adds up from boundary to boundary adds up over the ranges.** -/
theorem sum_rangesBetween {bs : List Int} (f : Int → Nat) (g : Int × Int → Nat)
    (hstep : ∀ range ∈ rangesBetween bs, f range.1 + g range = f range.2)
    (hfirst : bs.head? = some first) (hlast : bs.getLast? = some last) :
    f first + ((rangesBetween bs).map g).sum = f last := by
  induction bs generalizing first with
  | nil => simp at hfirst
  | cons a rest ih =>
      obtain rfl : a = first := by simpa using hfirst
      cases rest with
      | nil =>
          obtain rfl : a = last := by simpa using hlast
          simp
      | cons b rest =>
          rw [List.getLast?_cons_cons] at hlast
          rw [rangesBetween_cons] at hstep ⊢
          have hab : f a + g (a, b) = f b := hstep (a, b) List.mem_cons_self
          rw [List.map_cons, List.sum_cons, ← Nat.add_assoc, hab]
          exact ih (fun range hr => hstep range (List.mem_cons_of_mem _ hr)) rfl hlast

theorem le_of_mem_rangesBetween {bs : List Int} (h : bs.Pairwise (· ≤ ·)) {range : Int × Int}
    (hrange : range ∈ rangesBetween bs) : range.1 ∈ bs ∧ range.1 ≤ range.2 := by
  induction bs with
  | nil => simp at hrange
  | cons a rest ih =>
      cases rest with
      | nil => simp at hrange
      | cons b rest =>
          rw [rangesBetween_cons] at hrange
          rcases List.mem_cons.1 hrange with rfl | hrange
          · exact ⟨List.mem_cons_self, (List.pairwise_cons.1 h).1 b List.mem_cons_self⟩
          · obtain ⟨hmem, hle⟩ := ih (List.pairwise_cons.1 h).2 hrange
            exact ⟨List.mem_cons_of_mem _ hmem, hle⟩

end ClusterReport.Histogram
