/-
**Counts added up under keys.**

A tally adds counts to a dictionary, each under its key.  Several counts with one key end up in one
value, so that the values are the sums of the counts by key, and no count is lost: the values add up
to all counts together.

Main definitions:

* `ClusterReport.Dict.total` — the sum of the values of a dictionary;
* `ClusterReport.Dict.tally` — keyed counts added to a dictionary;
* `ClusterReport.Dict.countAt` — the value of a key, where a key that is not there counts nothing.

Main results:

* `ClusterReport.Dict.sum_map_values_insert`, `sum_values_foldl_insertWith` — what setting a value,
  and adding some, does to a sum over the values;
* `ClusterReport.Dict.get?_tally` — **the value of a key is the sum of its counts**;
* `ClusterReport.Dict.total_tally` — **the values add up to all counts**;
* `ClusterReport.Dict.sum_countAt_eq_total`, `total_lt_sum_countAt` — the values of some keys add up
  to all counts if the keys are distinct, and to more if one of them is listed twice.
-/

import ClusterReport.Dict
import ClusterReport.Integer
import ClusterReport.Proofs.Dict.Lookup
import Mathlib.Algebra.BigOperators.Intervals
import Mathlib.Algebra.Order.BigOperators.Group.Finset
import Mathlib.Algebra.Ring.Int.Defs

set_option relaxedAutoImplicit false
set_option autoImplicit false

universe u v

namespace ClusterReport

theorem Integer.natSum_eq_sum (ns : List Nat) : natSum ns = ns.sum := by
  induction ns with
  | nil => rfl
  | cons n rest ih => rw [natSum_cons, ih, List.sum_cons]

theorem Integer.sum_eq_sum (ns : List Int) : sum ns = ns.sum := by
  induction ns with
  | nil => rfl
  | cons n rest ih => rw [sum_cons, ih, List.sum_cons]

theorem Entries.sum_insert {M : Type u} [AddCommMonoid M] {es : List (String × M)} (h : Sorted es)
    (key : String) (n : M) :
    ((insert key n es).map (·.2)).sum + (get? key es).getD 0 = (es.map (·.2)).sum + n := by
  induction es with
  | nil => simp [insert]
  | cons e rest ih =>
      obtain ⟨k, v⟩ := e
      obtain ⟨hlt, hrest⟩ := List.pairwise_cons.1 h
      have ih := ih hrest
      unfold insert
      split
      case isTrue hkey =>
        -- the key is below all that are there
        have hnone : get? key ((k, v) :: rest) = none := by
          refine get?_eq_none_of_lt fun e he => ?_
          rcases List.mem_cons.1 he with rfl | he
          · exact hkey
          · exact String.lt_trans hkey (hlt e he)
        rw [hnone]
        simp only [List.map_cons, List.sum_cons, Option.getD_none, add_zero]
        rw [add_comm]
      case isFalse =>
        split
        case isTrue heq =>
          rw [get?_cons, if_pos heq]
          simp only [List.map_cons, List.sum_cons, Option.getD_some]
          rw [add_right_comm, add_comm n, add_right_comm]
        case isFalse hne =>
          rw [get?_cons, if_neg hne]
          simp only [List.map_cons, List.sum_cons]
          rw [add_assoc, ih, add_assoc]

namespace Dict

/-- Setting a key's value replaces what the old one counted in a sum over the values. -/
theorem sum_map_values_insert {α : Type u} {M : Type v} [AddCommMonoid M] (d : Dict α)
    {key : String} {old : α} (h : d.get? key = some old) (new : α) (g : α → M) :
    ((d.insert key new).values.map g).sum + g old = (d.values.map g).sum + g new := by
  have hvalues (d : Dict α) : d.values.map g = (d.map fun _ value => g value).values := by
    simp [values, map]
  have hsum := Entries.sum_insert (d.map fun _ value => g value).sorted key (g new)
  have hold : Entries.get? key (d.map fun _ value => g value).entries = some (g old) :=
    (get?_map _ _ _).trans (congrArg _ h)
  rw [hold, Option.getD_some] at hsum
  rw [hvalues, hvalues, map_insert]
  exact hsum

/-- What is added under a key is added to what the key has, which is nothing for a new key. -/
theorem insertWith_add {M : Type u} [AddZeroClass M] (d : Dict M) (key : String) (n : M) :
    d.insertWith (· + ·) key n = d.insert key ((d.get? key).getD 0 + n) := by
  unfold insertWith
  cases d.get? key with
  | none => rw [Option.getD_none, zero_add]
  | some old => rfl

theorem sum_values_insertWith {M : Type u} [AddCancelCommMonoid M] (d : Dict M) (key : String)
    (n : M) : (d.insertWith (· + ·) key n).values.sum = d.values.sum + n := by
  have hsum := Entries.sum_insert d.sorted key ((d.get? key).getD 0 + n)
  rw [← add_assoc, add_right_comm] at hsum
  rw [insertWith_add]
  exact add_right_cancel hsum

/-- What is added under some keys is added to the sum of the values. -/
theorem sum_values_foldl_insertWith {M : Type u} [AddCancelCommMonoid M] (es : List (String × M))
    (d : Dict M) :
    (es.foldl (fun d e => d.insertWith (· + ·) e.1 e.2) d).values.sum =
      d.values.sum + (es.map (·.2)).sum := by
  induction es generalizing d with
  | nil => exact (add_zero _).symm
  | cons e rest ih =>
      rw [List.foldl_cons, ih, sum_values_insertWith, List.map_cons, List.sum_cons, add_assoc]

/-- The sum of the values. -/
def total (d : Dict Nat) : Nat := d.values.sum

/-- Keyed counts added to a dictionary, one after the other. -/
def tally (counts : List (String × Nat)) (d : Dict Nat) : Dict Nat :=
  counts.foldl (fun d count => d.insertWith (· + ·) count.1 count.2) d

def countOf (key : String) (counts : List (String × Nat)) : Nat :=
  ((counts.filter fun count => count.1 = key).map (·.2)).sum

@[simp] theorem total_empty : total .empty = 0 := rfl

@[simp] theorem tally_nil (d : Dict Nat) : tally [] d = d := rfl

theorem tally_cons (count : String × Nat) (counts : List (String × Nat)) (d : Dict Nat) :
    tally (count :: counts) d = tally counts (d.insertWith (· + ·) count.1 count.2) := rfl

theorem tally_concat (counts : List (String × Nat)) (count : String × Nat) (d : Dict Nat) :
    tally (counts ++ [count]) d = (tally counts d).insertWith (· + ·) count.1 count.2 :=
  List.foldl_concat ..

theorem countOf_cons (key : String) (count : String × Nat) (counts : List (String × Nat)) :
    countOf key (count :: counts) =
      (if count.1 = key then count.2 else 0) + countOf key counts := by
  unfold countOf
  by_cases h : count.1 = key
  · rw [List.filter_cons_of_pos (by simpa using h), List.map_cons, List.sum_cons, if_pos h]
  · rw [List.filter_cons_of_neg (by simpa using h), if_neg h, Nat.zero_add]

theorem get?_insertWith_add (d : Dict Nat) (key other : String) (n : Nat) :
    (d.insertWith (· + ·) key n).get? other =
      if key = other then some ((d.get? other).getD 0 + n) else d.get? other := by
  rw [insertWith_add, get?_insert]
  by_cases h : key = other
  · rw [if_pos h, if_pos h.symm, h]
  · rw [if_neg h, if_neg fun heq => h heq.symm]

/-- **The value of a key is the sum of its counts**; a key without counts keeps what it had. -/
theorem get?_tally (counts : List (String × Nat)) (d : Dict Nat) (key : String) :
    (tally counts d).get? key =
      if counts.any fun count => count.1 = key then some ((d.get? key).getD 0 + countOf key counts)
      else d.get? key := by
  induction counts generalizing d with
  | nil => simp
  | cons count counts ih =>
      rw [tally_cons, ih, get?_insertWith_add, countOf_cons, List.any_cons]
      by_cases hkey : count.1 = key
      · rw [if_pos hkey, if_pos hkey]
        by_cases hrest : counts.any (fun count => count.1 = key) = true
        · simp [hrest, Nat.add_assoc]
        · have hnone : countOf key counts = 0 := by
            unfold countOf
            rw [List.filter_eq_nil_iff.2 fun c hc hck =>
              hrest (List.any_eq_true.2 ⟨c, hc, hck⟩)]
            rfl
          simp [hrest, hkey, hnone]
      · rw [if_neg hkey, if_neg hkey, Nat.zero_add, decide_eq_false hkey, Bool.false_or]

/-- **The values add up to all counts.** -/
theorem total_tally (counts : List (String × Nat)) (d : Dict Nat) :
    (tally counts d).total = d.total + (counts.map (·.2)).sum :=
  sum_values_foldl_insertWith counts d

/-! ### Values of listed keys -/

/-- The value of a key; a key that is not there counts nothing. -/
def countAt (d : Dict Nat) (key : String) : Nat := (d.get? key).getD 0

theorem countAt_insert (d : Dict Nat) (key other : String) (n : Nat) :
    (d.insert key n).countAt other = if other = key then n else d.countAt other := by
  rw [countAt, get?_insert]
  split
  case isTrue => rfl
  case isFalse => rfl

theorem total_eq_sum_keys (d : Dict Nat) : d.total = (d.keys.map d.countAt).sum := by
  unfold total values keys
  rw [List.map_map]
  refine congrArg List.sum (List.map_congr_left fun e he => ?_)
  rw [Function.comp_apply, countAt, get?, d.sorted.get?_of_mem he, Option.getD_some]

theorem countAt_le_total (d : Dict Nat) (key : String) : d.countAt key ≤ d.total := by
  cases hget : d.get? key with
  | none =>
      rw [countAt, hget, Option.getD_none]
      exact Nat.zero_le _
  | some n =>
      rw [countAt, hget, Option.getD_some]
      exact List.le_sum_of_mem (mem_values_iff.2 ⟨key, hget⟩)

/-- All counts are found under any keys that leave out none with a count. -/
theorem total_eq_sum_toFinset (d : Dict Nat) {keys : List String}
    (h : ∀ key, 0 < d.countAt key → key ∈ keys) :
    d.total = ∑ key ∈ keys.toFinset, d.countAt key := by
  rw [total_eq_sum_keys, ← List.sum_toFinset _ d.nodup_keys]
  have hzero : ∀ key, key ∉ d.keys → d.countAt key = 0 := by
    intro key hkey
    cases hget : d.get? key with
    | none => rw [countAt, hget, Option.getD_none]
    | some n => exact absurd (List.mem_map.2 ⟨_, Entries.mem_of_get? hget, rfl⟩) hkey
  refine Finset.sum_congr_of_eq_on_inter (fun key _ hnot => ?_) (fun key _ hnot => ?_)
    fun _ _ _ => rfl
  · by_contra hne
    exact hnot (List.mem_toFinset.2 (h key (Nat.pos_of_ne_zero hne)))
  · exact hzero key fun hmem => hnot (List.mem_toFinset.2 hmem)

/-- The values of distinct keys add up to all counts. -/
theorem sum_countAt_eq_total (d : Dict Nat) {keys : List String}
    (h : ∀ key, 0 < d.countAt key → key ∈ keys) (h' : keys.Nodup) :
    (keys.map d.countAt).sum = d.total := by
  rw [d.total_eq_sum_toFinset h, List.sum_toFinset _ h']

/-- A key with a count that is listed more than once is added more than once. -/
theorem total_lt_sum_countAt (d : Dict Nat) {keys : List String}
    (h : ∀ key, 0 < d.countAt key → key ∈ keys) {key : String} (hkey : 2 ≤ keys.count key)
    (hpos : 0 < d.countAt key) : d.total < (keys.map d.countAt).sum := by
  rw [d.total_eq_sum_toFinset h, Finset.sum_list_map_count]
  refine Finset.sum_lt_sum (fun k hk => ?_) ⟨key, List.mem_toFinset.2 (h key hpos), ?_⟩
  · exact Nat.le_mul_of_pos_left _ (List.count_pos_iff.2 (List.mem_toFinset.1 hk))
  · calc d.countAt key < 2 * d.countAt key := by omega
      _ ≤ keys.count key • d.countAt key := Nat.mul_le_mul_right _ hkey

end Dict
end ClusterReport
