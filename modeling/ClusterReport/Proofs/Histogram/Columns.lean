/-
**Which columns a byte distribution shows.**

Every range shown gets a label for the width of the last node and the greatest blocks of any node,
and these labels come first among the columns, one for each range.  Labels of other widths and
blocks follow, each once.  Of all these the columns keep the labels under which some node has
something.  So no label is missing, but the first labels are cut off to whole units and may be
equal, and then a column stands there several times and its counts are read several times.  All
this holds of nodes whose objects are not too many to be counted with 64 bits.

Main definitions:

* `ClusterReport.Histogram.sharedLabel` — the label of a range that is composed for all nodes;
* `ClusterReport.Histogram.HasObjects` — that some node has something under a label;
* `ClusterReport.Histogram.LabelledApart` — that no two ranges share a label with something under
  it;
* `ClusterReport.Histogram.ShowsColumns` — what the columns of a distribution show.

Main results:

* `ClusterReport.Histogram.exists_addLabels` — which labels are appended to others;
* `ClusterReport.Histogram.mem_columns` — which labels are columns;
* `ClusterReport.Histogram.nodup_columns_iff` — when columns are distinct;
* `ClusterReport.Histogram.columns_show` — **the columns are the labels with something under them,
  and they are distinct, and add up to the objects of every node, exactly if no two ranges share
  such a label**.
-/

import ClusterReport.Proofs.Histogram.Conservation

set_option relaxedAutoImplicit false
set_option autoImplicit false

namespace ClusterReport.Histogram

/-! ### Appended labels -/

/-- Labels are appended behind the ones that are there, each once and none that is there. -/
theorem exists_addLabels (columns labels : List String) :
    ∃ added, addLabels columns labels = columns ++ added ∧ added.Nodup ∧
      (∀ label ∈ added, label ∉ columns) ∧
      ∀ label, label ∈ columns ++ added ↔ label ∈ columns ∨ label ∈ labels := by
  induction labels generalizing columns with
  | nil => exact ⟨[], by simp [addLabels]⟩
  | cons first rest ih =>
      by_cases hmem : first ∈ columns
      · -- the label is passed over
        obtain ⟨added, heq, hnodup, hnew, hall⟩ := ih columns
        refine ⟨added, ?_, hnodup, hnew, fun label => ?_⟩
        · rw [← heq, addLabels, List.foldl_cons, if_pos (List.contains_iff_mem.2 hmem)]
          rfl
        · rw [hall label, List.mem_cons]
          constructor
          · exact fun h => h.imp_right Or.inr
          · rintro (h | rfl | h)
            · exact Or.inl h
            · exact Or.inl hmem
            · exact Or.inr h
      · obtain ⟨added, heq, hnodup, hnew, hall⟩ := ih (columns ++ [first])
        have happend : columns ++ first :: added = columns ++ [first] ++ added := by simp
        refine ⟨first :: added, ?_, List.nodup_cons.2 ⟨?_, hnodup⟩, ?_, fun label => ?_⟩
        · rw [happend, ← heq, addLabels, List.foldl_cons,
            if_neg fun h => hmem (List.contains_iff_mem.1 h)]
          rfl
        · exact fun h => hnew first h (by simp)
        · intro label hlabel
          rcases List.mem_cons.1 hlabel with rfl | hlabel
          · exact hmem
          · exact fun h => hnew label hlabel (List.mem_append_left _ h)
        · rw [happend, hall label, List.mem_append, List.mem_singleton, List.mem_cons, or_assoc]

/-! ### Labels with something under them -/

/-- The label of a range that is composed for all nodes: for the width of the last node, and the
greatest blocks of any node. -/
def sharedLabel (nodes : List NodeBuckets) (range : Int × Int) : String :=
  rangeLabel range.1 range.2 ((nodes.getLast?.map (·.width)).getD 1)
    ((nodes.map (·.block)).max?.getD ReleaseGate.defaultBlockSize)

/-- Some node has something in a range that is labelled so on this node. -/
def HasObjects (nodes : List NodeBuckets) (bucketCount : Nat) (label : String) : Prop :=
  ∃ n ∈ nodes, ∃ range ∈ displayRanges nodes bucketCount,
    n.label range = label ∧ 0 < objectsIn n.counts range

/-- No two of the ranges shown share a label with something under it. -/
def LabelledApart (nodes : List NodeBuckets) (bucketCount : Nat) : Prop :=
  (displayRanges nodes bucketCount).Pairwise fun r s =>
    sharedLabel nodes r = sharedLabel nodes s → ¬ HasObjects nodes bucketCount (sharedLabel nodes r)

/-! ### Columns -/

/-- Whether a label is shown: there was something under it in some row. -/
def isShown (nodes : List NodeBuckets) (bucketCount : Nat) (label : String) : Bool :=
  (nodes.map fun n => (n.node, n.row (displayRanges nodes bucketCount))).any fun r =>
    r.2.shown.contains label

/-- The columns are the labels composed for all nodes and those of each node, as far as they are
shown. -/
theorem columns_distributionOfBuckets (nodes : List NodeBuckets) (bucketCount : Nat) :
    (distributionOfBuckets nodes bucketCount).columns =
      (addLabels ((displayRanges nodes bucketCount).map (sharedLabel nodes))
        (nodes.flatMap fun n => (displayRanges nodes bucketCount).map n.label)).filter
          (isShown nodes bucketCount) := rfl

theorem countAt_row_pos_iff {nodes : List NodeBuckets} {n : NodeBuckets} (hn : n ∈ nodes)
    (hfits : n.counts.sum ≤ Integer.nat64Max) (bucketCount : Nat) (label : String) :
    0 < (n.row (displayRanges nodes bucketCount)).counts.countAt label ↔
      ∃ range ∈ displayRanges nodes bucketCount,
        n.label range = label ∧ 0 < objectsIn n.counts range := by
  rw [Dict.countAt, (conserves_row hn hfits bucketCount).get?_eq label]
  by_cases hany : (displayRanges nodes bucketCount).any fun range => n.label range = label
  · rw [if_pos hany, Option.getD_some, List.sum_pos_iff_exists_pos_nat]
    constructor
    · rintro ⟨x, hx, hpos⟩
      obtain ⟨range, hrange, rfl⟩ := List.mem_map.1 hx
      obtain ⟨hrange, hlabel⟩ := List.mem_filter.1 hrange
      exact ⟨range, hrange, of_decide_eq_true hlabel, hpos⟩
    · rintro ⟨range, hrange, hlabel, hpos⟩
      exact ⟨_, List.mem_map_of_mem (List.mem_filter.2 ⟨hrange, decide_eq_true hlabel⟩), hpos⟩
  · rw [if_neg hany, Option.getD_none]
    refine ⟨fun h => absurd h (lt_irrefl 0), ?_⟩
    rintro ⟨range, hrange, hlabel, -⟩
    exact absurd (List.any_eq_true.2 ⟨range, hrange, decide_eq_true hlabel⟩) hany

section Columns

variable {nodes : List NodeBuckets} (hfits : ∀ n ∈ nodes, n.counts.sum ≤ Integer.nat64Max)
variable {bucketCount : Nat}
include hfits

theorem hasObjects_iff {label : String} :
    HasObjects nodes bucketCount label ↔
      ∃ n ∈ nodes, 0 < (n.row (displayRanges nodes bucketCount)).counts.countAt label :=
  exists_congr fun n => and_congr_right fun hn =>
    (countAt_row_pos_iff hn (hfits n hn) bucketCount label).symm

theorem isShown_iff {label : String} :
    isShown nodes bucketCount label = true ↔ HasObjects nodes bucketCount label := by
  rw [isShown, hasObjects_iff hfits, List.any_map, List.any_eq_true]
  refine exists_congr fun n => and_congr_right fun hn => ?_
  rw [Function.comp_apply, List.contains_iff_mem]
  exact (isTally_row_displayRanges hn (hfits n hn) bucketCount).2.mem_shown_iff label

/-- The columns are the labels under which some node has something. -/
theorem mem_columns {label : String} :
    label ∈ (distributionOfBuckets nodes bucketCount).columns ↔
      HasObjects nodes bucketCount label := by
  obtain ⟨added, heq, -, -, hall⟩ := exists_addLabels
    ((displayRanges nodes bucketCount).map (sharedLabel nodes))
    (nodes.flatMap fun n => (displayRanges nodes bucketCount).map n.label)
  rw [columns_distributionOfBuckets, List.mem_filter, isShown_iff hfits, heq, hall]
  constructor
  · exact And.right
  · intro h
    refine ⟨Or.inr ?_, h⟩
    -- a label with something under it is the label of a range on some node
    obtain ⟨n, hn, range, hrange, hlabel, -⟩ := h
    exact List.mem_flatMap.2 ⟨n, hn, List.mem_map.2 ⟨range, hrange, hlabel⟩⟩

/-- Columns are distinct if no two ranges share a label with something under it. -/
theorem nodup_columns_iff :
    (distributionOfBuckets nodes bucketCount).columns.Nodup ↔ LabelledApart nodes bucketCount := by
  obtain ⟨added, heq, hnodup, hnew, -⟩ := exists_addLabels
    ((displayRanges nodes bucketCount).map (sharedLabel nodes))
    (nodes.flatMap fun n => (displayRanges nodes bucketCount).map n.label)
  rw [columns_distributionOfBuckets, heq, List.filter_append, List.nodup_append]
  -- appended labels never repeat one, so that only the shared labels count
  have hadded : (added.filter (isShown nodes bucketCount)).Nodup :=
    hnodup.sublist List.filter_sublist
  have hapart : ∀ label ∈ (displayRanges nodes bucketCount).map (sharedLabel nodes),
      ∀ other ∈ added, label ≠ other :=
    fun label hlabel other hother heq => hnew other hother (heq ▸ hlabel)
  have hshared : (((displayRanges nodes bucketCount).map (sharedLabel nodes)).filter
      (isShown nodes bucketCount)).Nodup ↔ LabelledApart nodes bucketCount := by
    rw [List.Nodup, List.pairwise_filter, List.pairwise_map]
    refine List.Pairwise.iff fun r s => ?_
    rw [isShown_iff hfits, isShown_iff hfits]
    constructor
    · exact fun h heq hobjects => h hobjects (heq ▸ hobjects) heq
    · exact fun h hobjects _ heq => h heq hobjects
  rw [hshared]
  constructor
  · exact And.left
  · refine fun h => ⟨h, hadded, fun label hlabel other hother => ?_⟩
    exact hapart label (List.mem_filter.1 hlabel).1 other (List.mem_filter.1 hother).1

/-- The counts under the columns add up to the objects of every node exactly if no two ranges share
a label with something under it. -/
theorem sum_columns_iff :
    (∀ n ∈ nodes, ((distributionOfBuckets nodes bucketCount).columns.map
      (n.row (displayRanges nodes bucketCount)).counts.countAt).sum = n.counts.sum) ↔
      LabelledApart nodes bucketCount := by
  have hcover : ∀ n ∈ nodes, ∀ label,
      0 < (n.row (displayRanges nodes bucketCount)).counts.countAt label →
        label ∈ (distributionOfBuckets nodes bucketCount).columns :=
    fun n hn label hpos => (mem_columns hfits).2 ((hasObjects_iff hfits).2 ⟨n, hn, hpos⟩)
  have htotal : ∀ n ∈ nodes,
      (n.row (displayRanges nodes bucketCount)).counts.total = n.counts.sum :=
    fun n hn => (conserves_row hn (hfits n hn) bucketCount).total_eq
  rw [← nodup_columns_iff hfits]
  constructor
  · intro hsum
    by_contra hdup
    obtain ⟨label, hlabel⟩ : ∃ label,
        1 < (distributionOfBuckets nodes bucketCount).columns.count label := by
      by_contra hnone
      exact hdup (List.nodup_iff_count_le_one.2 fun label => not_lt.1 fun h => hnone ⟨label, h⟩)
    -- a column that stands there twice has something under it on some node
    have hmem := List.count_pos_iff.1 (lt_trans Nat.zero_lt_one hlabel)
    obtain ⟨n, hn, hpos⟩ := (hasObjects_iff hfits).1 ((mem_columns hfits).1 hmem)
    have hlt := Dict.total_lt_sum_countAt _ (hcover n hn) hlabel hpos
    rw [hsum n hn, htotal n hn] at hlt
    exact lt_irrefl _ hlt
  · intro hnodup n hn
    rw [Dict.sum_countAt_eq_total _ (hcover n hn) hnodup, htotal n hn]

end Columns

/-! ### Distributions -/

/-- What the columns of the distribution of a namespace show: the labels under which some node has
something, and no more than that exactly if no two ranges share such a label; then the columns are
distinct, and under them the objects of every node add up. -/
structure ShowsColumns (builds : Dict String) (bucketCount : Nat) (nodes : Keyed Histogram)
    (d : NamespaceDistribution) : Prop where
  mem_iff : ∀ label, label ∈ d.columns ↔
    ∃ node row, d.nodes.get? node = some row ∧ 0 < row.countAt label
  nodup_iff : d.columns.Nodup ↔ LabelledApart (nodeBuckets builds nodes) bucketCount
  sum_iff : (∀ node h, (nodes.get? node).bind linear? = some h →
    ∃ row, d.nodes.get? node = some row ∧ (d.columns.map row.countAt).sum = h.counts.sum) ↔
      LabelledApart (nodeBuckets builds nodes) bucketCount

/-- **The columns are the labels with something under them, and they are distinct, and add up to the
objects of every node, exactly if no two ranges share such a label**, unless some node has too many
objects to count. -/
theorem columns_show (builds : Dict String) (bucketCount : Nat) (data : NodeHistograms)
    (name : String) :
    Option.Rel
      (fun nodes d => (∀ n ∈ nodeBuckets builds nodes, n.counts.sum ≤ Integer.nat64Max) →
        ShowsColumns builds bucketCount nodes d)
      ((Keyed.flip data).get? name)
      ((distributionsOfBuckets builds bucketCount data).get? name) := by
  rw [distributionsOfBuckets, Dict.get?_map]
  cases (Keyed.flip data).get? name with
  | none => exact Option.Rel.none
  | some nodes =>
      have hrow := get?_nodes_distributionOfBuckets builds nodes bucketCount
      refine Option.Rel.some fun hfits => ⟨fun label => ?_, nodup_columns_iff hfits, ?_⟩
      · rw [mem_columns hfits, hasObjects_iff hfits]
        constructor
        · rintro ⟨n, hn, hpos⟩
          obtain ⟨node, h, hh, rfl⟩ := mem_nodeBuckets.1 hn
          exact ⟨node, _, by rw [hrow, hh]; rfl, hpos⟩
        · rintro ⟨node, row, hget, hpos⟩
          rw [hrow, Option.map_eq_some_iff] at hget
          obtain ⟨h, hh, rfl⟩ := hget
          exact ⟨_, mem_nodeBuckets.2 ⟨node, h, hh, rfl⟩, hpos⟩
      · rw [← sum_columns_iff hfits]
        constructor
        · intro hsum n hn
          obtain ⟨node, h, hh, rfl⟩ := mem_nodeBuckets.1 hn
          obtain ⟨row, hget, hsum⟩ := hsum node h hh
          rw [hrow, hh, Option.map_some, Option.some.injEq] at hget
          rw [hget]
          exact hsum
        · intro hsum node h hh
          exact ⟨_, by rw [hrow, hh]; rfl, hsum _ (mem_nodeBuckets.2 ⟨node, h, hh, rfl⟩)⟩

theorem columns_show_adjacentBuckets : ∃ nodes d,
    (Keyed.flip adjacentBuckets).get? "test" = some nodes ∧
      (distributionsOfBuckets (.ofList [("n1", "6.0.0")]) 5 adjacentBuckets).get? "test" = some d ∧
      (∀ n ∈ nodeBuckets (.ofList [("n1", "6.0.0")]) nodes, n.counts.sum ≤ Integer.nat64Max) ∧
      ShowsColumns (.ofList [("n1", "6.0.0")]) 5 nodes d := by
  have hrel := columns_show (.ofList [("n1", "6.0.0")]) 5 adjacentBuckets "test"
  obtain ⟨nodes, hnodes⟩ : ∃ nodes, (Keyed.flip adjacentBuckets).get? "test" = some nodes :=
    ⟨_, rfl⟩
  have hfits : ∀ n ∈ nodeBuckets (.ofList [("n1", "6.0.0")]) nodes,
      n.counts.sum ≤ Integer.nat64Max := by
    obtain rfl := Option.some.inj hnodes
    decide +kernel
  rw [hnodes] at hrel ⊢
  generalize (distributionsOfBuckets _ _ _).get? _ = d? at hrel ⊢
  cases hrel with
  | some hshows => exact ⟨_, _, rfl, rfl, hfits, hshows hfits⟩

/-- The column of the second kilobyte stands there three times, so that two objects are read as
six. -/
theorem column_repeated : ∃ d row,
    (distributionsOfBuckets (.ofList [("n1", "6.0.0")]) 5 adjacentBuckets).get? "test" = some d ∧
      d.nodes.get? "n1" = some row ∧ ¬ d.columns.Nodup ∧
      (d.columns.map row.countAt).sum = 6 ∧ row.total = 2 := by
  refine ⟨_, _, rfl, rfl, ?_, ?_, ?_⟩
  · decide +kernel
  · decide +kernel
  · decide +kernel

end ClusterReport.Histogram
