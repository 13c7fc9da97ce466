/-
**What swapping the outer keys keeps.**

Fetched data with its two outer keys swapped has under an inner and an outer key exactly what the
data had under the outer and the inner one, provided that the outer entry was fetched at all.  Since
no key is left with nothing below it, what stands below two keys makes up all of the swapped data,
and swapping once more gives the data back, but for the outer keys that had no entries to swap.

Main definitions:

* `ClusterReport.Keyed.under?` — what stands below two keys;
* `ClusterReport.Keyed.AllNonempty` — that something stands below every key;
* `ClusterReport.Keyed.asFetched`, `nonemptyRows` — swapped data as data that was fetched, and the
  rows of fetched data that are not empty;
* `ClusterReport.Keyed.Swaps` — what it is for data to be other data with its outer keys swapped.

Main results:

* `ClusterReport.Keyed.under?_flip` — **swapping keeps every entry**;
* `ClusterReport.Keyed.allNonempty_flip` — swapping leaves no key with nothing below it;
* `ClusterReport.Keyed.mem_keys_flip_iff` — which keys come to the front;
* `ClusterReport.Keyed.flip_asFetched_flip` — swapping twice keeps the rows that are not empty;
* `ClusterReport.Keyed.swaps_flip` — **swapping swaps the keys**, and can be undone.
-/

import ClusterReport.Fetched.Flip
import ClusterReport.Proofs.Dict.Lookup

set_option relaxedAutoImplicit false
set_option autoImplicit false

universe u

namespace ClusterReport.Keyed

variable {α : Type u}

/-- What stands below two keys. -/
def under? (d : Dict (Keyed α)) (first second : String) : Option (Fetched α) :=
  (d.get? first).bind fun row => row.get? second

@[simp] theorem under?_empty (first second : String) :
    under? (.empty : Dict (Keyed α)) first second = none := rfl

/-- One entry added below two keys. -/
theorem under?_addFlipped (outer : String) (flipped : Dict (Keyed α)) (entry : String × Fetched α)
    (first second : String) :
    under? (addFlipped outer flipped entry) first second =
      if first = entry.1 ∧ second = outer then some entry.2 else under? flipped first second := by
  unfold under? addFlipped
  rw [Dict.get?_insert]
  by_cases hfirst : first = entry.1
  · rw [if_pos hfirst, Option.bind_some, Dict.get?_insert]
    by_cases hsecond : second = outer
    · rw [if_pos hsecond, if_pos ⟨hfirst, hsecond⟩]
    · rw [if_neg hsecond, if_neg fun h => hsecond h.2, ← hfirst]
      cases flipped.get? first <;> rfl
  · rw [if_neg hfirst, if_neg fun h => hfirst h.1]

theorem under?_foldl_addFlipped (outer : String) {es : List (String × Fetched α)}
    (hes : Entries.Sorted es) (flipped : Dict (Keyed α)) (first second : String) :
    under? (es.foldl (addFlipped outer) flipped) first second =
      if second = outer then (Entries.get? first es).or (under? flipped first second)
      else under? flipped first second := by
  induction es generalizing flipped with
  | nil => simp
  | cons e rest ih =>
      obtain ⟨hlt, hrest⟩ := List.pairwise_cons.1 hes
      rw [List.foldl_cons, ih hrest, under?_addFlipped]
      by_cases hsecond : second = outer
      · rw [if_pos hsecond, if_pos hsecond, Entries.get?_cons]
        by_cases hfirst : first = e.1
        · -- the key is met here and nowhere in the rest
          have hnone : Entries.get? first rest = none :=
            Entries.get?_eq_none_of_lt fun e' he' => hfirst ▸ hlt e' he'
          rw [if_pos ⟨hfirst, hsecond⟩, if_pos hfirst, hnone]
          rfl
        · rw [if_neg fun h => hfirst h.1, if_neg hfirst]
      · rw [if_neg hsecond, if_neg hsecond, if_neg fun h => hsecond h.2]

theorem under?_addOuter (flipped : Dict (Keyed α)) (outer : String) (fetched : Fetched (Keyed α))
    (first second : String) :
    under? (addOuter flipped (outer, fetched)) first second =
      if second = outer then
        (fetched.data?.bind fun inner => inner.get? first).or (under? flipped first second)
      else under? flipped first second := by
  cases fetched with
  | failed cause => exact (ite_self _).symm
  | data inner => exact under?_foldl_addFlipped outer inner.sorted flipped first second

theorem under?_foldl_addOuter {es : List (String × Fetched (Keyed α))} (hes : Entries.Sorted es)
    (flipped : Dict (Keyed α)) (first second : String) :
    under? (es.foldl addOuter flipped) first second =
      (((Entries.get? second es).bind Fetched.data?).bind fun inner => inner.get? first).or
        (under? flipped first second) := by
  induction es generalizing flipped with
  | nil => rfl
  | cons e rest ih =>
      obtain ⟨outer, fetched⟩ := e
      obtain ⟨hlt, hrest⟩ := List.pairwise_cons.1 hes
      rw [List.foldl_cons, ih hrest, under?_addOuter, Entries.get?_cons]
      by_cases hsecond : second = outer
      · have hnone : Entries.get? second rest = none :=
          Entries.get?_eq_none_of_lt fun e' he' => hsecond ▸ hlt e' he'
        rw [if_pos hsecond, if_pos hsecond, hnone]
        rfl
      · rw [if_neg hsecond, if_neg hsecond]

/-- **Swapping keeps every entry** of the outer keys that were fetched, and no other. -/
theorem under?_flip (d : Keyed (Keyed α)) (inner outer : String) :
    under? (flip d) inner outer = (d.data? outer).bind fun row => row.get? inner := by
  rw [flip, under?_foldl_addOuter d.sorted, under?_empty, Option.or_none]
  rfl

/-- Below two keys of swapped data stands what a row that was fetched has under the second. -/
theorem under?_flip_eq_some_iff {d : Keyed (Keyed α)} {inner outer : String} {entry : Fetched α} :
    under? (flip d) inner outer = some entry ↔
      ∃ row, d.get? outer = some (.data row) ∧ row.get? inner = some entry := by
  rw [under?_flip, Option.bind_eq_some_iff, data?]
  refine exists_congr fun row => and_congr_left fun _ => ?_
  cases d.get? outer with
  | none => simp
  | some fetched => cases fetched <;> simp

/-! ### Keys with something below them -/

/-- Whether every key of swapped data has something below it. -/
def AllNonempty (flipped : Dict (Keyed α)) : Prop :=
  ∀ key row, flipped.get? key = some row → row.isEmpty = false

theorem AllNonempty.addFlipped {flipped : Dict (Keyed α)} (h : AllNonempty flipped)
    (outer : String) (entry : String × Fetched α) :
    AllNonempty (addFlipped outer flipped entry) := by
  intro key row hrow
  rw [Keyed.addFlipped, Dict.get?_insert] at hrow
  split at hrow
  · obtain rfl := Option.some.inj hrow
    exact Dict.isEmpty_insert _ _ _
  · exact h key row hrow

theorem AllNonempty.addOuter {flipped : Dict (Keyed α)} (h : AllNonempty flipped)
    (entry : String × Fetched (Keyed α)) : AllNonempty (addOuter flipped entry) := by
  obtain ⟨outer, fetched⟩ := entry
  cases fetched with
  | failed cause => exact h
  | data inner =>
      exact List.foldlRecOn (motive := AllNonempty) inner.entries _ h
        fun flipped h entry _ => h.addFlipped outer entry

/-- Every key of swapped data has something below it. -/
theorem allNonempty_flip (d : Keyed (Keyed α)) : AllNonempty (flip d) := by
  have hempty : AllNonempty (.empty : Dict (Keyed α)) := by
    intro key row hrow
    cases hrow
  exact List.foldlRecOn (motive := AllNonempty) d.entries _ hempty
    fun flipped h entry _ => h.addOuter entry

theorem AllNonempty.exists_under? {flipped : Dict (Keyed α)} (h : AllNonempty flipped)
    {first : String} {row : Keyed α} (hrow : flipped.get? first = some row) :
    ∃ second entry, under? flipped first second = some entry := by
  obtain ⟨⟨second, entry⟩, hmem⟩ := List.exists_mem_of_ne_nil _
    (List.isEmpty_eq_false_iff.1 (h first row hrow))
  refine ⟨second, entry, ?_⟩
  rw [under?, hrow, Option.bind_some]
  exact Dict.mem_entries_iff.1 hmem

/-- The keys that come to the front are the inner keys of what was fetched, whether their own
entries were fetched or not. -/
theorem mem_keys_flip_iff {d : Keyed (Keyed α)} {inner : String} :
    inner ∈ (flip d).keys ↔ ∃ outer row, d.get? outer = some (.data row) ∧ inner ∈ row.keys := by
  rw [Dict.mem_keys_iff]
  constructor
  · rintro ⟨flippedRow, hrow⟩
    -- something stands below the key, and that came from an outer key
    obtain ⟨outer, entry, hentry⟩ := (allNonempty_flip d).exists_under? hrow
    obtain ⟨row, houter, hinner⟩ := under?_flip_eq_some_iff.1 hentry
    exact ⟨outer, row, houter, Dict.mem_keys_iff.2 ⟨entry, hinner⟩⟩
  · rintro ⟨outer, row, houter, hinner⟩
    obtain ⟨entry, hentry⟩ := Dict.mem_keys_iff.1 hinner
    obtain ⟨flippedRow, hrow, -⟩ :=
      Option.bind_eq_some_iff.1 (under?_flip_eq_some_iff.2 ⟨row, houter, hentry⟩)
    exact ⟨flippedRow, hrow⟩

/-- A row of data in which something stands below every key is also a row of other data, if the
same stands below all keys of both. -/
theorem AllNonempty.get?_eq_some {a b : Dict (Keyed α)} (ha : AllNonempty a)
    (h : ∀ first second, under? a first second = under? b first second) {first : String}
    {row : Keyed α} (hrow : a.get? first = some row) : b.get? first = some row := by
  obtain ⟨second, entry, hentry⟩ := ha.exists_under? hrow
  rw [h] at hentry
  obtain ⟨row', hrow', -⟩ := Option.bind_eq_some_iff.1 hentry
  have heq : row' = row := by
    refine Dict.ext_get? fun key => ?_
    have hkey := h first key
    rw [under?, under?, hrow, hrow', Option.bind_some, Option.bind_some] at hkey
    exact hkey.symm
  rw [hrow', heq]

/-- **What stands below two keys makes up data in which something stands below every key.** -/
theorem AllNonempty.ext_under? {a b : Dict (Keyed α)} (ha : AllNonempty a) (hb : AllNonempty b)
    (h : ∀ first second, under? a first second = under? b first second) : a = b :=
  Dict.ext_get? fun _ => Option.ext fun _ =>
    ⟨ha.get?_eq_some h, hb.get?_eq_some fun first second => (h first second).symm⟩

/-! ### Swapping twice -/

/-- Swapped data as data that was fetched, without a failure. -/
def asFetched (flipped : Dict (Keyed α)) : Keyed (Keyed α) := flipped.map fun _ row => .data row

@[simp] theorem data?_asFetched (flipped : Dict (Keyed α)) (key : String) :
    (asFetched flipped).data? key = flipped.get? key := by
  rw [data?, asFetched, Dict.get?_map]
  cases flipped.get? key <;> rfl

/-- The rows that were fetched and are not empty. -/
def nonemptyRows (d : Keyed (Keyed α)) : Dict (Keyed α) :=
  d.filterMap fun _ fetched => fetched.data?.filter fun row => !row.isEmpty

theorem get?_nonemptyRows_eq_some_iff {d : Keyed (Keyed α)} {key : String} {row : Keyed α} :
    (nonemptyRows d).get? key = some row ↔ d.get? key = some (.data row) ∧ row.isEmpty = false := by
  rw [nonemptyRows, Dict.get?_filterMap]
  cases d.get? key with
  | none => simp
  | some fetched =>
      cases fetched with
      | failed cause => simp
      | data row' => simp [Option.filter_eq_some_iff]

theorem allNonempty_nonemptyRows (d : Keyed (Keyed α)) : AllNonempty (nonemptyRows d) :=
  fun _ _ hrow => (get?_nonemptyRows_eq_some_iff.1 hrow).2

theorem under?_nonemptyRows (d : Keyed (Keyed α)) (first second : String) :
    under? (nonemptyRows d) first second = (d.data? first).bind fun row => row.get? second := by
  rw [under?, nonemptyRows, Dict.get?_filterMap, data?]
  cases d.get? first with
  | none => rfl
  | some fetched =>
      cases fetched with
      | failed cause => rfl
      | data row =>
          obtain ⟨es, hes⟩ := row
          cases es <;> rfl

/-- Swapping twice keeps the rows that are not empty. -/
theorem flip_asFetched_flip (d : Keyed (Keyed α)) :
    flip (asFetched (flip d)) = nonemptyRows d := by
  refine (allNonempty_flip _).ext_under? (allNonempty_nonemptyRows d) fun outer inner => ?_
  calc under? (flip (asFetched (flip d))) outer inner
      = ((asFetched (flip d)).data? inner).bind fun row => row.get? outer := under?_flip _ _ _
    _ = under? (flip d) inner outer := by rw [data?_asFetched, under?]
    _ = (d.data? outer).bind fun row => row.get? inner := under?_flip _ _ _
    _ = under? (nonemptyRows d) outer inner := (under?_nonemptyRows d outer inner).symm

/-- What it is for data to be fetched data with its two outer keys swapped: it has below an inner
and an outer key what a row that was fetched has, be it a failure, and no key with nothing below it.
Swapping its keys once more gives back exactly the rows that were fetched and are not empty. -/
structure Swaps (d : Keyed (Keyed α)) (flipped : Dict (Keyed α)) : Prop where
  under?_iff : ∀ inner outer entry, under? flipped inner outer = some entry ↔
    ∃ row, d.get? outer = some (.data row) ∧ row.get? inner = some entry
  allNonempty : AllNonempty flipped
  flip_again_iff : ∀ outer row, (flip (asFetched flipped)).get? outer = some row ↔
    d.get? outer = some (.data row) ∧ row.isEmpty = false

/-- **Swapping swaps the keys**, loses nothing but the rows that failed or are empty, and can be
undone. -/
theorem swaps_flip (d : Keyed (Keyed α)) : Swaps d (flip d) := by
  constructor
  case under?_iff => exact fun _ _ _ => under?_flip_eq_some_iff
  case allNonempty => exact allNonempty_flip d
  case flip_again_iff =>
    intro outer row
    rw [flip_asFetched_flip]
    exact get?_nonemptyRows_eq_some_iff

end ClusterReport.Keyed
