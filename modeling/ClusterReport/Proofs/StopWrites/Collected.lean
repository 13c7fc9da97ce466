/-
**Collected entries.**

The entries of a node are collected one by one, each put in its place in the order of keys; one with
a key that is there already takes the place of the old one.  What is collected stands in that order,
and where all keys are distinct it is what came, nothing lost.

Main definitions:

* `ClusterReport.StopWrites.Increasing` — that entries stand in the order of their keys.

Main results:

* the order of keys is total and transitive, as an instance of `Std.TransCmp`;
* `ClusterReport.StopWrites.increasing_collect` — collected entries stand in that order;
* `ClusterReport.StopWrites.perm_collect` — **where keys are distinct, none of the entries takes the
  place of another**.
-/

import ClusterReport.Proofs.StopWrites.Entries
import Mathlib.Data.List.Nodup

set_option relaxedAutoImplicit false
set_option autoImplicit false

namespace ClusterReport.StopWrites

open Std

/-! ### The order of keys -/

/-- Names are in the order of options, of which a missing one is the first. -/
theorem compareNames_eq_compare (a b : Option String) : compareNames a b = compare a b := by
  cases a <;> cases b <;> rfl

theorem Key.compare_eq : Key.compare = compareLex (compareOn Key.namespaceName)
    (compareLex (compareOn Key.setName) (compareOn Key.metric)) := by
  funext a b
  rw [Key.compare, compareNames_eq_compare, compareNames_eq_compare]
  rfl

/-- The order of keys is total and transitive. -/
instance : TransCmp Key.compare := by
  rw [Key.compare_eq]
  infer_instance

/-- Whether an entry has its place before another one. -/
def Entry.Precedes (a b : Entry) : Prop := a.key.compare b.key = .lt

/-- Of two entries one at most has its place before the other. -/
instance : Asymm Entry.Precedes where
  asymm _ _ hab hba := OrientedCmp.not_lt_of_lt hab hba

/-- Entries that stand in the order of their keys, of which no two are the same. -/
def Increasing (es : List Entry) : Prop := es.Pairwise Entry.Precedes

theorem Increasing.insertEntry {es : List Entry} (h : Increasing es) (e : Entry) :
    Increasing (insertEntry e es) := by
  induction es with
  | nil => exact List.pairwise_singleton _ _
  | cons other rest ih =>
      obtain ⟨hother, hrest⟩ := List.pairwise_cons.1 h
      unfold StopWrites.insertEntry
      split
      case h_1 hlt =>
        refine List.pairwise_cons.2 ⟨List.forall_mem_cons.2 ⟨hlt, fun x hx => ?_⟩, h⟩
        exact TransCmp.lt_trans hlt (hother x hx)
      case h_2 heq =>
        refine List.pairwise_cons.2 ⟨fun x hx => ?_, hrest⟩
        rw [Entry.Precedes, Key.compare_eq_iff.1 heq]
        exact hother x hx
      case h_3 hgt =>
        refine List.pairwise_cons.2 ⟨fun x hx => ?_, ih hrest⟩
        rcases mem_of_mem_insertEntry hx with rfl | hx
        · exact OrientedCmp.gt_iff_lt.1 hgt
        · exact hother x hx

/-- Collected entries stand in the order of their keys. -/
theorem increasing_collect (es : List Entry) : Increasing (collect es) :=
  List.foldlRecOn (motive := Increasing) es _ List.Pairwise.nil fun _ h e _ => h.insertEntry e

/-! ### Nothing takes the place of another -/

theorem perm_insertEntry {e : Entry} {es : List Entry} (h : e.key ∉ es.map Entry.key) :
    (insertEntry e es).Perm (e :: es) := by
  induction es with
  | nil => exact List.Perm.refl _
  | cons other rest ih =>
      rw [List.map_cons, List.mem_cons, not_or] at h
      unfold insertEntry
      split
      case h_1 => exact List.Perm.refl _
      case h_2 heq => exact absurd (Key.compare_eq_iff.1 heq) h.1
      case h_3 => exact ((ih h.2).cons other).trans (List.Perm.swap e other rest)

theorem perm_foldl_insertEntry {es done : List Entry} (h : ((done ++ es).map Entry.key).Nodup) :
    (es.foldl (fun done e => insertEntry e done) done).Perm (done ++ es) := by
  induction es generalizing done with
  | nil => rw [List.append_nil]; exact List.Perm.refl _
  | cons e rest ih =>
      have hmiddle : (done ++ e :: rest).Perm (e :: (done ++ rest)) := List.perm_middle
      have hkeys : e.key ∉ done.map Entry.key := by
        have hcons := ((hmiddle.map Entry.key).nodup_iff).1 h
        rw [List.map_cons, List.nodup_cons, List.map_append, List.mem_append, not_or] at hcons
        exact hcons.1.1
      have hput : (insertEntry e done ++ rest).Perm (done ++ e :: rest) :=
        ((perm_insertEntry hkeys).append_right rest).trans hmiddle.symm
      exact (ih (((hput.map Entry.key).nodup_iff).2 h)).trans hput

/-- **Where keys are distinct, none of the entries takes the place of another.** -/
theorem perm_collect {es : List Entry} (h : (es.map Entry.key).Nodup) : (collect es).Perm es :=
  perm_foldl_insertEntry h

end ClusterReport.StopWrites
