/-
**The value that a column shows for a group.**

Where columns of a sheet are reduced, a column that groups the records shows the first cell of each
group beside the reductions, as the value that the group stands for.  Records are grouped by the
fields of the sheet only, not by those of a tuple, but a column is taken for one that groups them by
its key alone.  So the first cell stands for all of them where the column is a field of the sheet,
and inside a tuple, under a key that happens to be a group key, only where the cells of each group
happen to be the same.

Main definitions:

* `ClusterReport.Sheet.IsConstant` — that cells are all the same;
* `ClusterReport.Sheet.Prepared.LeafAt` — a column of some fields, however deep in tuples;
* `ClusterReport.Sheet.Leaf.ShowsGroupValue`, `ClusterReport.Sheet.ShowsGroupValues` — that what a
  column shows for a group, and what all of them show, is the value of each of its cells.

Main results:

* `ClusterReport.Sheet.isConstant_of_group` — a group is constant under each group key;
* `ClusterReport.Sheet.Leaf.showsGroupValue_prepare_iff` — what one column shows;
* `ClusterReport.Sheet.Prepared.LeafAt.exists_eq_prepare` — where the cells of a column stand;
* `ClusterReport.Sheet.showsGroupValues_build_iff` — **group values are shown exactly where the
  columns of tuples that go by a group key are constant in each group**.
-/

import ClusterReport.Proofs.Sheet.Grouping
import ClusterReport.Sheet.Prepared

set_option relaxedAutoImplicit false
set_option autoImplicit false

namespace ClusterReport.Sheet

open Std (OrientedCmp ReflCmp TransCmp)

/-! ### Cells that are the same -/

/-- All cells are the same, as far as the order of cells tells. -/
def IsConstant (cells : List (Cell Scalar)) : Prop :=
  ∀ a ∈ cells, ∀ b ∈ cells, Cell.compare Scalar.compare a b = .eq

theorem isConstant_iff_head {cells : List (Cell Scalar)} :
    IsConstant cells ↔
      ∀ a ∈ cells, Cell.compare Scalar.compare a (cells.head?.getD .absent) = .eq := by
  cases cells with
  | nil => exact ⟨fun _ a ha => (List.not_mem_nil ha).elim, fun _ a ha => (List.not_mem_nil ha).elim⟩
  | cons first rest =>
      rw [List.head?_cons, Option.getD_some]
      constructor
      · exact fun h a ha => h a ha first List.mem_cons_self
      · exact fun h a ha b hb => TransCmp.eq_trans (h a ha) (OrientedCmp.eq_symm (h b hb))

/-- **A group is constant under each group key**, ordered as it may be. -/
theorem isConstant_of_group {groupKeys orderKeys : List String} {records : List Record} {g : Group}
    (hg : g ∈ (group groupKeys records).map (Group.order orderKeys)) {key : String}
    (hkey : key ∈ groupKeys) : IsConstant (Leaf.cellsOf [key] g) := by
  obtain ⟨unordered, hunordered, rfl⟩ := List.mem_map.1 hg
  have htuple : ∀ r ∈ (unordered.order orderKeys).records,
      compareTuples (r.tuple groupKeys) unordered.key = .eq := by
    intro r hr
    rw [Group.records_order, (perm_sortAll orderKeys _).mem_iff,
      (isGrouping_group groupKeys records).records_eq unordered hunordered] at hr
    exact beq_iff_eq.1 (List.mem_filter.1 hr).2
  intro a ha b hb
  obtain ⟨r, hr, rfl⟩ := List.mem_map.1 ha
  obtain ⟨s, hs, rfl⟩ := List.mem_map.1 hb
  exact compareAt_of_compareTuples
    (TransCmp.eq_trans (htuple r hr) (OrientedCmp.eq_symm (htuple s hs))) hkey

/-! ### What one column shows -/

namespace Leaf

/-- What a column without a reduction shows for a group is the value of each of its cells. -/
def ShowsGroupValue (l : Leaf) : Prop :=
  l.column.aggregator = none → ∀ (i : Nat) (value : Cell Scalar) (cells : List (Cell Scalar)),
    l.aggregates[i]? = some (some value) → l.cells[i]? = some cells →
      ∀ cell ∈ cells, Cell.compare Scalar.compare cell value = .eq

variable {d : Declaration} {groups : List Group} {common : Json} {path : List String} {c : Column}

/-- A column shows a value for a group when it is visible, goes by a group key, and something is
reduced. -/
theorem aggregates_prepare_eq_iff (hcolumn : c.aggregator = none) {i : Nat} {value : Cell Scalar} :
    (prepare d groups common path c).aggregates[i]? = some (some value) ↔
      ∃ cells, (prepare d groups common path c).cells[i]? = some cells ∧
        (prepare d groups common path c).hidden = false ∧ c.key ∈ d.groupKeys ∧
          d.hasAggregates = true ∧ cells.head?.getD .absent = value := by
  have haggregates : (prepare d groups common path c).aggregates =
      (prepare d groups common path c).cells.map fun cells =>
        if (prepare d groups common path c).hidden then none
        else aggregate c (d.groupKeys.contains c.key && d.hasAggregates) cells := rfl
  have hone : ∀ cells, (if (prepare d groups common path c).hidden then none
        else aggregate c (d.groupKeys.contains c.key && d.hasAggregates) cells) = some value ↔
      (prepare d groups common path c).hidden = false ∧ c.key ∈ d.groupKeys ∧
        d.hasAggregates = true ∧ cells.head?.getD .absent = value := by
    intro cells
    rw [aggregate, hcolumn]
    cases (prepare d groups common path c).hidden with
    | true => simp
    | false => simp [and_assoc]
  rw [haggregates, List.getElem?_map, Option.map_eq_some_iff]
  exact exists_congr fun cells => and_congr_right fun _ => hone cells

/-- **What one column shows** is the value of each cell of a group when it shows none at all, or the
cells of each group are the same. -/
theorem showsGroupValue_prepare_iff :
    (prepare d groups common path c).ShowsGroupValue ↔
      (c.aggregator = none → c.key ∈ d.groupKeys → d.hasAggregates = true →
        (prepare d groups common path c).hidden = false →
          ∀ cells ∈ (prepare d groups common path c).cells, IsConstant cells) := by
  constructor
  · intro hshows hcolumn hkey haggregates hvisible cells hcells
    obtain ⟨i, hi⟩ := List.mem_iff_getElem?.1 hcells
    rw [isConstant_iff_head]
    exact hshows hcolumn i _ cells ((aggregates_prepare_eq_iff hcolumn).2
      ⟨cells, hi, hvisible, hkey, haggregates, rfl⟩) hi
  · intro hconstant hcolumn i value cells hvalue hcells
    obtain ⟨cells', hcells', hvisible, hkey, haggregates, rfl⟩ :=
      (aggregates_prepare_eq_iff hcolumn).1 hvalue
    obtain rfl : cells' = cells := Option.some.inj (hcells'.symm.trans hcells)
    exact isConstant_iff_head.1
      (hconstant hcolumn hkey haggregates hvisible cells' (List.mem_of_getElem? hcells))

end Leaf

/-! ### Columns in tuples -/

namespace Prepared

/-- A column of some fields, with the keys of the tuples that it stands in. -/
inductive LeafAt : List String → Leaf → List Prepared → Prop where
  | field {l : Leaf} {fields : List Prepared} (h : leaf l ∈ fields) : LeafAt [] l fields
  | inner {path : List String} {l : Leaf} {key title : String} {hidden : Bool}
      {inner fields : List Prepared} (htuple : tuple key title hidden inner ∈ fields)
      (h : LeafAt path l inner) : LeafAt (key :: path) l fields

variable {d : Declaration} {groups : List Group} {common : Json}

theorem mem_prepareAll {behind : List String} {fields : List Field} {prepared : Prepared}
    (h : prepared ∈ prepareAll d groups common behind fields) :
    ∃ field ∈ fields, prepared = prepare d groups common behind field := by
  induction fields with
  | nil => cases h
  | cons field rest ih =>
      rw [prepareAll, List.mem_cons] at h
      rcases h with rfl | h
      · exact ⟨field, List.mem_cons_self, rfl⟩
      · obtain ⟨field, hfield, heq⟩ := ih h
        exact ⟨field, List.mem_cons_of_mem _ hfield, heq⟩

/-- A column of prepared fields has its cells at the end of the path that it stands at. -/
theorem LeafAt.exists_eq_prepare {path behind : List String} {l : Leaf} {fields : List Field}
    (h : LeafAt path l (prepareAll d groups common behind fields)) :
    ∃ c, l = Leaf.prepare d groups common (behind ++ path) c := by
  generalize hprepared : prepareAll d groups common behind fields = prepared at h
  induction h generalizing behind fields with
  | field hleaf =>
      rw [← hprepared] at hleaf
      obtain ⟨field, -, heq⟩ := mem_prepareAll hleaf
      cases field with
      | column c =>
          rw [prepare] at heq
          exact ⟨c, by rw [List.append_nil]; exact leaf.inj heq⟩
      | tuple key title inner =>
          rw [prepare] at heq
          cases heq
  | @inner path l key title hidden inner fields' htuple _ ih =>
      rw [← hprepared] at htuple
      obtain ⟨field, -, heq⟩ := mem_prepareAll htuple
      cases field with
      | column c =>
          rw [prepare] at heq
          cases heq
      | tuple key' title' fields'' =>
          rw [prepare] at heq
          obtain ⟨rfl, -, -, hinner⟩ := tuple.inj heq
          obtain ⟨c, hc⟩ := ih hinner.symm
          exact ⟨c, by rw [hc, List.append_assoc]; rfl⟩

end Prepared

/-! ### A sheet -/

/-- What any column shows for a group is the value of each of its cells. -/
def ShowsGroupValues (s : Sheet) : Prop :=
  ∀ path l, Prepared.LeafAt path l s.fields → l.ShowsGroupValue

/-- A column that is a field of the sheet shows the value of each cell. -/
theorem showsGroupValue_of_field {d : Declaration} {title : String} {sources : Sources}
    {common : Json} {l : Leaf}
    (h : Prepared.LeafAt [] l (build d title sources common).fields) : l.ShowsGroupValue := by
  obtain ⟨c, rfl⟩ := Prepared.LeafAt.exists_eq_prepare h
  refine Leaf.showsGroupValue_prepare_iff.2 fun _ hkey _ _ cells hcells => ?_
  obtain ⟨g, hg, rfl⟩ := List.mem_map.1 hcells
  exact isConstant_of_group hg hkey

/-- **Group values are shown exactly where the columns of tuples that go by a group key are constant
in each group**, as far as they are visible and anything is reduced. -/
theorem showsGroupValues_build_iff (d : Declaration) (title : String) (sources : Sources)
    (common : Json) :
    ShowsGroupValues (build d title sources common) ↔
      (d.hasAggregates = true → ∀ path l, path ≠ [] →
        Prepared.LeafAt path l (build d title sources common).fields →
          l.column.aggregator = none → l.column.key ∈ d.groupKeys → l.hidden = false →
            ∀ cells ∈ l.cells, IsConstant cells) := by
  constructor
  · intro hshows haggregates path l _ hl hcolumn hkey hvisible
    have hleaf := hshows path l hl
    obtain ⟨c, rfl⟩ := Prepared.LeafAt.exists_eq_prepare hl
    exact Leaf.showsGroupValue_prepare_iff.1 hleaf hcolumn hkey haggregates hvisible
  · intro hconstant path l hl
    by_cases hpath : path = []
    · subst hpath
      exact showsGroupValue_of_field hl
    · obtain ⟨c, rfl⟩ := Prepared.LeafAt.exists_eq_prepare hl
      exact Leaf.showsGroupValue_prepare_iff.2 fun hcolumn hkey haggregates hvisible =>
        hconstant haggregates path _ hpath hl hcolumn hkey hvisible

/-- Two nodes on one rack, with backups on two. -/
def nodesWithBackups : Sources :=
  .ofList [("svc", .ofList [("a", .value (.object [("backup", .int 2), ("rack", .int 1)])),
    ("b", .value (.object [("backup", .int 3), ("rack", .int 1)]))])]

/-- The rack of a backup, in a tuple of its own. -/
def backupRack : Column where
  title := "Rack"
  projector := .number "svc" ["backup"]

/-- Nodes that are counted by rack, with the racks of their backups. -/
def nodesByRack : Declaration where
  fields := [.column { title := "Rack", projector := .number "svc" ["rack"] },
    .tuple "Backup" "Backup" [.column backupRack],
    .column { title := "Nodes", projector := .rowKey, aggregator := some { reduction := .count } }]
  groupKeys := ["Rack"]

theorem groups_nodesByRack : (build nodesByRack "Nodes" nodesWithBackups).groups =
    [{ key := [.value (.int 1)], records := keptRecords nodesByRack nodesWithBackups }] := by
  have hsorted : sortAt "Rack" (keptRecords nodesByRack nodesWithBackups) =
      keptRecords nodesByRack nodesWithBackups := List.mergeSort_of_pairwise (by decide +kernel)
  change (Group.split "Rack" { records := keptRecords nodesByRack nodesWithBackups } ++ []).map
    (Group.order []) = _
  rw [Group.split, hsorted]
  rfl

/-- **The first backup's rack is shown as that of all**, under the key of the racks that the nodes
are grouped by. -/
theorem not_showsGroupValues_nodesByRack :
    ¬ ShowsGroupValues (build nodesByRack "Nodes" nodesWithBackups) := by
  intro hshows
  have hleaf : Prepared.LeafAt ["Backup"]
      (Leaf.prepare nodesByRack (build nodesByRack "Nodes" nodesWithBackups).groups .null ["Backup"]
        backupRack) (build nodesByRack "Nodes" nodesWithBackups).fields :=
    .inner (List.mem_cons_of_mem _ List.mem_cons_self) (.field List.mem_cons_self)
  have hshows := hshows _ _ hleaf
  rw [groups_nodesByRack] at hshows
  have hsame := hshows rfl 0 (.value (.int 2)) [.value (.int 2), .value (.int 3)] (by decide +kernel)
    (by decide +kernel) (.value (.int 3)) (List.mem_cons_of_mem _ List.mem_cons_self)
  exact absurd hsame (by decide)

end ClusterReport.Sheet
