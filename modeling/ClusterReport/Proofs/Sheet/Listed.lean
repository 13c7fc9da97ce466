/-
**Records that list some items.**

A sheet that does not group its records is a listing: it has one group, in which the records stand
in the order of the order keys.  What such a listing lists does not depend on that order, and can be
said row by row.

Main definitions:

* `ClusterReport.Sheet.ListsEach` — that there is one record for each of some items.

Main results:

* `ClusterReport.Sheet.groups_build_of_groupKeys` — a listing has one group;
* `ClusterReport.Sheet.ListsEach.of_perm` — the order of the records does not matter;
* `ClusterReport.Sheet.ListsEach.flatMap` — items that are listed row by row are listed.
-/

import ClusterReport.Proofs.Sheet.Grouping
import ClusterReport.Sheet.Prepared
import Mathlib.Data.List.Forall2
import Mathlib.Data.List.Perm.Basic

set_option relaxedAutoImplicit false
set_option autoImplicit false

universe u v

namespace ClusterReport.Sheet

/-- A sheet that does not group its records has one group. -/
theorem groups_build_of_groupKeys {d : Declaration} (h : d.groupKeys = []) (title : String)
    (sources : Sources) (common : Json) :
    (Sheet.build d title sources common).groups =
      [{ records := sortAll d.orderKeys (keptRecords d sources) }] := by
  change (group d.groupKeys (keptRecords d sources)).map (Group.order d.orderKeys) = _
  rw [h]
  rfl

variable {α : Type u} {β : Type v} {shows : α → Record → Prop}

theorem exists_perm_of_forall₂ {items : List α} {records records' : List Record}
    (hperm : records.Perm records') (h : List.Forall₂ shows items records) :
    ∃ items' : List α, items'.Perm items ∧ List.Forall₂ shows items' records' := by
  obtain ⟨items', hshows, hitems⟩ :=
    List.perm_comp_forall₂ (r := flip shows) hperm.symm (List.Forall₂.flip h)
  exact ⟨items', hitems, List.Forall₂.flip hshows⟩

/-- There is one record for each of some items, as often as it occurs among them, and no other
record. -/
def ListsEach (shows : α → Record → Prop) (items : List α) (records : List Record) : Prop :=
  ∃ shown : List α, shown.Perm items ∧ List.Forall₂ shows shown records

namespace ListsEach

theorem length_eq {items : List α} {records : List Record} (h : ListsEach shows items records) :
    records.length = items.length := by
  obtain ⟨shown, hperm, hshows⟩ := h
  rw [← hshows.length_eq, hperm.length_eq]

theorem of_map {l : List β} {item : β → α} {record : β → Record}
    (h : ∀ x ∈ l, shows (item x) (record x)) :
    ListsEach shows (l.map item) (l.map record) :=
  ⟨l.map item, .refl _,
    List.forall₂_map_left_iff.2 (List.forall₂_map_right_iff.2 (List.forall₂_same.2 h))⟩

/-- The order of the records does not matter. -/
theorem of_perm {items : List α} {records records' : List Record}
    (hperm : records.Perm records') (h : ListsEach shows items records) :
    ListsEach shows items records' := by
  obtain ⟨shown, hshown, hshows⟩ := h
  obtain ⟨shown', hshown', hshows'⟩ := exists_perm_of_forall₂ hperm hshows
  exact ⟨shown', hshown'.trans hshown, hshows'⟩

/-- Items that are listed row by row are listed. -/
theorem flatMap {rows : List β} {items : β → List α} {records : β → List Record}
    (h : ∀ row ∈ rows, ListsEach shows (items row) (records row)) :
    ListsEach shows (rows.flatMap items) (rows.flatMap records) := by
  induction rows with
  | nil => exact ⟨[], .refl _, .nil⟩
  | cons row rest ih =>
      obtain ⟨hrow, hrest⟩ := List.forall_mem_cons.1 h
      obtain ⟨first, hfirst, hshows⟩ := hrow
      obtain ⟨others, hothers, hshows'⟩ := ih hrest
      exact ⟨first ++ others, hfirst.append hothers, List.rel_append hshows hshows'⟩

end ListsEach
end ClusterReport.Sheet
