/-
**How named ranges are lined up.**

Nodes may report different named ranges.  Their distribution has a column for the label of every
range of any node, each label once, and every node has a count under each: the one of its last range
with the label, or zero.  Columns stand in the order of the sizes at which their ranges start, and
those that start at one size in the order in which the nodes first name them.  A label of which the
start cannot be read, or does not fit 64 bits, counts as starting at the greatest size there is.  It
stands behind all others for that, but for one that does start there: between these two nothing
decides but which was named first.

Main definitions:

* `ClusterReport.Histogram.IsLabelOf` — the label of a range;
* `ClusterReport.Histogram.labelsOf` — the labels of all nodes, in the order of their names;
* `ClusterReport.Histogram.OrderedBy` — labels in the order of their starts and then of a list;
* `ClusterReport.Histogram.startOf` — the size at which a labelled range starts, infinite where it
  has none;
* `ClusterReport.Histogram.IsAligned`, `AlignsRanges` — what a row, and the columns and all rows of
  a distribution are.

Main results:

* `ClusterReport.Histogram.labelOfRange?_eq_some_iff` — a range is labelled by its two ends;
* `ClusterReport.Histogram.pairwise_orderedBy_labelStart` — the order of the columns;
* `ClusterReport.Histogram.pairwise_orderedBy_startOf_iff` — when labels without a start are last;
* `ClusterReport.Histogram.isAligned_alignedRow` — what the rows count;
* `ClusterReport.Histogram.alignsRanges_distributionsOfRanges` — **the columns are the labels of all
  ranges in the order of their starts, and every node has a count under each of them**;
* `ClusterReport.Histogram.not_pairwise_startOf_greatestStart` — a label without a start that stands
  before one with the greatest.
-/

import ClusterReport.Proofs.Histogram.Columns
import ClusterReport.Proofs.Sheet.Runs
import Mathlib.Data.ENat.Basic
import Mathlib.Data.List.Induction

set_option relaxedAutoImplicit false
set_option autoImplicit false

universe u

namespace ClusterReport.Histogram

/-! ### Labels -/

/-- The label of a range, which is named by its two ends with a hyphen between them; of several
hyphens the first one counts. -/
def IsLabelOf (range label : String) : Prop :=
  ∃ start stop : String, '-' ∉ start.toList ∧ range = start ++ "-" ++ stop ∧
    label = start ++ " to " ++ stop

/-- **A range is labelled by its two ends.** -/
theorem labelOfRange?_eq_some_iff {range label : String} :
    labelOfRange? range = some label ↔ IsLabelOf range label := by
  rw [labelOfRange?, Option.map_eq_some_iff]
  constructor
  · rintro ⟨⟨before, after⟩, hcut, rfl⟩
    obtain ⟨c, hc, hrange, hbefore⟩ := Text.of_cut hcut
    obtain rfl := of_decide_eq_true hc
    refine ⟨String.ofList before, String.ofList after, fun hmem => ?_, ?_, rfl⟩
    · rw [String.toList_ofList] at hmem
      exact of_decide_eq_false (hbefore _ hmem) rfl
    · rw [← String.toList_inj, hrange]
      simp
  · rintro ⟨start, stop, hstart, rfl, rfl⟩
    refine ⟨(start.toList, stop.toList), ?_, by simp [rangeKey]⟩
    have hlist : (start ++ "-" ++ stop).toList = start.toList ++ '-' :: stop.toList := by simp
    rw [hlist]
    refine Text.cut_append_cons _ _ _ _ (fun d hd => decide_eq_false ?_) (decide_eq_true rfl)
    rintro rfl
    exact hstart hd

instance (range label : String) : Decidable (IsLabelOf range label) :=
  decidable_of_iff _ labelOfRange?_eq_some_iff

def logarithmic? : Fetched Histogram → Option LogHistogram
  | .data (.logarithmic h) => some h
  | _ => none

def labelsIn (h : LogHistogram) : List String := h.ranges.filterMap fun r => labelOfRange? r.1

/-- The labels of all nodes, in the order of their names. -/
def labelsOf (nodes : Keyed Histogram) : List String :=
  (nodes.entries.filterMap fun e => logarithmic? e.2).flatMap labelsIn

theorem labelsIn_eq_map (h : LogHistogram) : labelsIn h = (labelledRanges h).map (·.1) := by
  rw [labelledRanges, List.map_filterMap]
  refine List.filterMap_congr fun r _ => ?_
  rw [Option.map_map]
  exact Option.map_id'.symm

theorem nodeRanges_eq_filterMap (nodes : Keyed Histogram) :
    nodeRanges nodes =
      nodes.entries.filterMap fun e => (logarithmic? e.2).map fun h => (e.1, labelledRanges h) := by
  refine List.filterMap_congr fun e _ => ?_
  obtain ⟨node, fetched⟩ := e
  cases fetched with
  | failed cause => rfl
  | data h => cases h <;> rfl

theorem labelsOf_eq_flatMap (nodes : Keyed Histogram) :
    labelsOf nodes = (nodeRanges nodes).flatMap fun n => n.2.map (·.1) := by
  rw [nodeRanges_eq_filterMap, labelsOf, List.flatMap_def, List.flatMap_def, List.map_filterMap,
    List.map_filterMap]
  refine congrArg List.flatten (List.filterMap_congr fun e _ => ?_)
  rw [Option.map_map]
  exact Option.map_congr fun h _ => labelsIn_eq_map h

theorem mem_labelsOf {nodes : Keyed Histogram} {label : String} :
    label ∈ labelsOf nodes ↔
      ∃ node h r, (nodes.get? node).bind logarithmic? = some h ∧ r ∈ h.ranges ∧
        IsLabelOf r.1 label := by
  simp only [labelsOf, labelsIn, List.mem_flatMap, List.mem_filterMap, labelOfRange?_eq_some_iff]
  constructor
  · rintro ⟨h, ⟨⟨node, fetched⟩, he, hh⟩, r, hr, hlabel⟩
    refine ⟨node, h, r, ?_, hr, hlabel⟩
    rw [Dict.mem_entries_iff.1 he, Option.bind_some, hh]
  · rintro ⟨node, h, r, hget, hr, hlabel⟩
    obtain ⟨fetched, hfetched, hh⟩ := Option.bind_eq_some_iff.1 hget
    exact ⟨h, ⟨(node, fetched), Dict.mem_entries_iff.2 hfetched, hh⟩, r, hr, hlabel⟩

theorem labelsIn_subset {nodes : Keyed Histogram} {node : String} {h : LogHistogram}
    (hh : (nodes.get? node).bind logarithmic? = some h) : labelsIn h ⊆ labelsOf nodes := by
  intro label hlabel
  obtain ⟨r, hr, hlabel⟩ := List.mem_filterMap.1 hlabel
  exact mem_labelsOf.2 ⟨node, h, r, hh, hr, labelOfRange?_eq_some_iff.1 hlabel⟩

/-! ### The order of the columns -/

theorem mem_addLabels_nil {labels : List String} {label : String} :
    label ∈ addLabels [] labels ↔ label ∈ labels := by
  obtain ⟨added, heq, -, -, hall⟩ := exists_addLabels [] labels
  rw [heq, hall]
  simp

theorem pairwise_addLabels_nil (labels : List String) :
    (addLabels [] labels).Pairwise fun a b => labels.idxOf a < labels.idxOf b := by
  induction labels using List.reverseRecOn with
  | nil => exact List.Pairwise.nil
  | append_singleton labels last ih =>
      -- the labels that are there appear first where they did
      have hthere : ∀ label ∈ addLabels [] labels,
          (labels ++ [last]).idxOf label = labels.idxOf label :=
        fun label h => List.idxOf_append_of_mem (mem_addLabels_nil.1 h)
      have ih : (addLabels [] labels).Pairwise fun a b =>
          (labels ++ [last]).idxOf a < (labels ++ [last]).idxOf b :=
        ih.imp_of_mem fun ha hb h => by rwa [hthere _ ha, hthere _ hb]
      have hconcat : addLabels [] (labels ++ [last]) =
          if (addLabels [] labels).contains last then addLabels [] labels
          else addLabels [] labels ++ [last] := List.foldl_concat ..
      rw [hconcat]
      split
      case isTrue => exact ih
      case isFalse hnew =>
        have hlast : last ∉ labels := fun h =>
          hnew (List.contains_iff_mem.2 (mem_addLabels_nil.2 h))
        refine List.pairwise_append.2 ⟨ih, List.pairwise_singleton _ _, fun label hlabel b hb => ?_⟩
        obtain rfl := List.mem_singleton.1 hb
        rw [hthere label hlabel, List.idxOf_append_of_notMem hlast]
        exact Nat.lt_add_right _ (List.idxOf_lt_length_of_mem (mem_addLabels_nil.1 hlabel))

theorem columns_distributionOfRanges (nodes : Keyed Histogram) :
    (distributionOfRanges (nodeRanges nodes)).columns =
      (addLabels [] (labelsOf nodes)).mergeSort fun a b => (compareOn labelStart a b).isLE := by
  have hle : (fun a b => decide (labelStart a ≤ labelStart b)) =
      fun a b => (compareOn labelStart a b).isLE := by
    funext a b
    rw [Bool.eq_iff_iff, decide_eq_true_iff]
    exact Nat.isLE_compare.symm
  rw [← hle, labelsOf_eq_flatMap]
  rfl

theorem mem_columns_distributionOfRanges {nodes : Keyed Histogram} {label : String} :
    label ∈ (distributionOfRanges (nodeRanges nodes)).columns ↔ label ∈ labelsOf nodes := by
  rw [columns_distributionOfRanges, List.mem_mergeSort, mem_addLabels_nil]

/-- Labels in the order of their starts, and those with one start in the order in which they appear
first. -/
def OrderedBy {α : Type u} [LT α] (start : String → α) (labels : List String) (a b : String) :
    Prop :=
  start a < start b ∨ start a = start b ∧ labels.idxOf a < labels.idxOf b

/-- **Columns stand in the order of their starts, where a label without a start has the greatest.**
-/
theorem pairwise_orderedBy_labelStart (nodes : Keyed Histogram) :
    (distributionOfRanges (nodeRanges nodes)).columns.Pairwise
      (OrderedBy labelStart (labelsOf nodes)) := by
  rw [columns_distributionOfRanges]
  refine (pairwise_mergeSort_of_pairwise (pairwise_addLabels_nil (labelsOf nodes))).imp ?_
  intro a b h
  exact h.imp compare_lt_iff_lt.1 (And.imp_left compare_eq_iff_eq.1)

theorem nodup_columns_distributionOfRanges (nodes : Keyed Histogram) :
    (distributionOfRanges (nodeRanges nodes)).columns.Nodup := by
  refine (pairwise_orderedBy_labelStart nodes).imp ?_
  rintro a b (h | ⟨-, h⟩) rfl
  · exact lt_irrefl _ h
  · exact lt_irrefl _ h

/-! ### Labels without a start -/

/-- The size at which a labelled range starts, which is infinite if it cannot be read or does not
fit 64 bits. -/
def startOf (label : String) : ℕ∞ := (ByteSize.ofLabel? (beforeTo label.toList)).elim ⊤ (↑)

/-- A label without a start counts as one with the greatest. -/
theorem labelStart_of_startOf_eq_top {label : String} (h : startOf label = ⊤) :
    labelStart label = Integer.nat64Max := by
  unfold startOf at h
  unfold labelStart
  cases hlabel : ByteSize.ofLabel? (beforeTo label.toList) with
  | none => rfl
  | some n =>
      rw [hlabel] at h
      exact absurd h (ENat.natCast_ne_top n)

theorem labelStart_of_startOf_eq_coe {label : String} {n : Nat} (h : startOf label = n) :
    labelStart label = n ∧ n ≤ Integer.nat64Max := by
  unfold startOf at h
  unfold labelStart
  cases hlabel : ByteSize.ofLabel? (beforeTo label.toList) with
  | none =>
      rw [hlabel] at h
      exact absurd h (ENat.top_ne_natCast n)
  | some m =>
      rw [hlabel] at h
      obtain rfl := ENat.natCast_inj.1 h
      exact ⟨rfl, ByteSize.ofLabel?_le hlabel⟩

/-- Labels in the order of the columns are so with the labels without a start last, unless the first
one has no start and the second one the greatest. -/
theorem OrderedBy.startOf_iff {labels : List String} {a b : String}
    (h : OrderedBy labelStart labels a b) :
    OrderedBy startOf labels a b ↔ (startOf a = ⊤ → startOf b ≠ Integer.nat64Max) := by
  unfold OrderedBy at h ⊢
  cases ha : startOf a using ENat.recTopCoe with
  | top =>
      rw [labelStart_of_startOf_eq_top ha] at h
      cases hb : startOf b using ENat.recTopCoe with
      | top =>
          rw [labelStart_of_startOf_eq_top hb] at h
          simpa using h
      | coe n =>
          -- behind a label without a start there is room for the greatest start only
          obtain ⟨heq, hle⟩ := labelStart_of_startOf_eq_coe hb
          rw [heq] at h
          have hn : n = Integer.nat64Max :=
            le_antisymm hle (h.elim le_of_lt fun h => le_of_eq h.1)
          simp [hn]
  | coe m =>
      rw [(labelStart_of_startOf_eq_coe ha).1] at h
      cases hb : startOf b using ENat.recTopCoe with
      | top => simp
      | coe n =>
          rw [(labelStart_of_startOf_eq_coe hb).1] at h
          simpa using h

/-- **Labels without a start are last exactly if those with the greatest start are all named before
them.** -/
theorem pairwise_orderedBy_startOf_iff (nodes : Keyed Histogram) :
    (distributionOfRanges (nodeRanges nodes)).columns.Pairwise
        (OrderedBy startOf (labelsOf nodes)) ↔
      ∀ a ∈ labelsOf nodes, ∀ b ∈ labelsOf nodes, startOf a = ⊤ → startOf b = Integer.nat64Max →
        (labelsOf nodes).idxOf b < (labelsOf nodes).idxOf a := by
  have hsorted := pairwise_orderedBy_labelStart nodes
  -- the starts of such labels count as equal, so that the columns have them in the order of names
  have hidx : ∀ {a b : String}, OrderedBy labelStart (labelsOf nodes) a b →
      labelStart a = labelStart b → (labelsOf nodes).idxOf a < (labelsOf nodes).idxOf b := by
    rintro a b (hlt | ⟨-, hidx⟩) heq
    · exact absurd heq (ne_of_lt hlt)
    · exact hidx
  have heq : ∀ {a b : String}, startOf a = ⊤ → startOf b = Integer.nat64Max →
      labelStart a = labelStart b := fun ha hb =>
    (labelStart_of_startOf_eq_top ha).trans (labelStart_of_startOf_eq_coe hb).1.symm
  constructor
  · intro hlast a ha b hb
    refine List.Pairwise.forall_of_forall_of_flip
      (R := fun a b => startOf a = ⊤ → startOf b = Integer.nat64Max →
        (labelsOf nodes).idxOf b < (labelsOf nodes).idxOf a) ?_ ?_ ?_
      (mem_columns_distributionOfRanges.2 ha) (mem_columns_distributionOfRanges.2 hb)
    · exact fun x _ htop hmax => absurd (htop.symm.trans hmax) (ENat.top_ne_natCast _)
    · exact (hsorted.and hlast).imp fun h htop hmax => absurd hmax (h.1.startOf_iff.1 h.2 htop)
    · exact hsorted.imp fun h htop hmax => hidx h (heq htop hmax).symm
  · intro h
    refine hsorted.imp_of_mem fun {a b} ha hb hab => hab.startOf_iff.2 fun htop hmax => ?_
    have hlt := h a (mem_columns_distributionOfRanges.1 ha) b
      (mem_columns_distributionOfRanges.1 hb) htop hmax
    exact lt_asymm hlt (hidx hab (heq htop hmax))

/-! ### Rows -/

/-- What a histogram counts under a label: the count of the last of its ranges with this label, and
nothing if there is none. -/
def lastCount (h : LogHistogram) (label : String) : Nat :=
  ((h.ranges.filter fun r => IsLabelOf r.1 label).getLast?.map (·.2)).getD 0

/-- The row of a histogram, with a count under each of some labels. -/
def alignedRow (labels : List String) (h : LogHistogram) : Dict Nat :=
  .ofList (labels.map (·, 0) ++ labelledRanges h)

/-- A row lines a histogram up with the columns: it has exactly these as keys, and under each the
count of the last range with this label, or zero. -/
structure IsAligned (columns : List String) (h : LogHistogram) (row : Dict Nat) : Prop where
  keys_perm : row.keys.Perm columns
  get?_eq : ∀ label ∈ columns, row.get? label = some (lastCount h label)

theorem filter_labelledRanges (h : LogHistogram) (label : String) :
    (labelledRanges h).filter (fun e => e.1 = label) =
      (h.ranges.filter fun r => IsLabelOf r.1 label).map fun r => (label, r.2) := by
  unfold labelledRanges
  induction h.ranges with
  | nil => rfl
  | cons r rest ih =>
      cases hr : labelOfRange? r.1 with
      | none =>
          have hnot : ¬ IsLabelOf r.1 label := fun h => by
            rw [labelOfRange?_eq_some_iff.2 h] at hr
            cases hr
          rw [List.filterMap_cons_none (by rw [hr]; rfl), ih, List.filter_cons_of_neg (by simpa)]
      | some other =>
          have hiff : other = label ↔ IsLabelOf r.1 label := by
            rw [← labelOfRange?_eq_some_iff, hr, Option.some.injEq]
          rw [List.filterMap_cons_some (by rw [hr]; rfl)]
          by_cases heq : other = label
          · rw [List.filter_cons_of_pos (by simpa using heq),
              List.filter_cons_of_pos (by simpa using hiff.1 heq), ih, List.map_cons, heq]
          · rw [List.filter_cons_of_neg (by simpa using heq),
              List.filter_cons_of_neg (by simpa using mt hiff.2 heq), ih]

/-- A label with a zero in front has the count of the last range that is labelled so, or zero. -/
theorem get?_alignedRow {labels : List String} {label : String} (hlabel : label ∈ labels)
    (h : LogHistogram) : (alignedRow labels h).get? label = some (lastCount h label) := by
  have hzero : ((labels.map (·, 0)).filter fun e : String × Nat => e.1 = label).getLast? =
      some (label, 0) := by
    have hfilter : (labels.map (·, 0)).filter (fun e : String × Nat => e.1 = label) =
        (labels.filter (· = label)).map (·, 0) := List.filter_map
    rw [hfilter, List.filter_eq, List.getLast?_map, List.getLast?_replicate,
      if_neg (List.count_pos_iff.2 hlabel).ne', Option.map_some]
  rw [alignedRow, Dict.get?_ofList_eq_getLast?, List.filter_append, List.getLast?_append,
    filter_labelledRanges, hzero, List.getLast?_map, lastCount]
  cases (h.ranges.filter fun r => IsLabelOf r.1 label).getLast? <;> rfl

theorem mem_keys_alignedRow {labels : List String} {h : LogHistogram} (hh : labelsIn h ⊆ labels)
    (label : String) : label ∈ (alignedRow labels h).keys ↔ label ∈ labels := by
  rw [alignedRow, Dict.mem_keys_ofList, List.map_append, List.mem_append, ← labelsIn_eq_map]
  have hzero : label ∈ (labels.map (·, 0)).map (fun e : String × Nat => e.1) ↔ label ∈ labels := by
    simp
  rw [hzero, or_iff_left_of_imp fun h => hh h]

/-- **The row of a node is lined up with the columns.** -/
theorem isAligned_alignedRow {nodes : Keyed Histogram} {node : String} {h : LogHistogram}
    (hh : (nodes.get? node).bind logarithmic? = some h) :
    IsAligned (distributionOfRanges (nodeRanges nodes)).columns h
      (alignedRow (addLabels [] (labelsOf nodes)) h) := by
  have hcolumns : ∀ label, label ∈ addLabels [] (labelsOf nodes) ↔
      label ∈ (distributionOfRanges (nodeRanges nodes)).columns := fun label =>
    mem_addLabels_nil.trans mem_columns_distributionOfRanges.symm
  have hsubset : labelsIn h ⊆ addLabels [] (labelsOf nodes) := fun label hlabel =>
    mem_addLabels_nil.2 (labelsIn_subset hh hlabel)
  constructor
  case keys_perm =>
    refine (List.perm_ext_iff_of_nodup (Dict.nodup_keys _)
      (nodup_columns_distributionOfRanges nodes)).2 fun label => ?_
    rw [mem_keys_alignedRow hsubset, hcolumns]
  case get?_eq => exact fun label hlabel => get?_alignedRow ((hcolumns label).2 hlabel) h

theorem get?_nodes_distributionOfRanges (nodes : Keyed Histogram) (node : String) :
    (distributionOfRanges (nodeRanges nodes)).nodes.get? node =
      ((nodes.get? node).bind logarithmic?).map (alignedRow (addLabels [] (labelsOf nodes))) := by
  have hnodes : (distributionOfRanges (nodeRanges nodes)).nodes =
      nodes.filterMap fun _ fetched =>
        (logarithmic? fetched).map (alignedRow (addLabels [] (labelsOf nodes))) := by
    rw [labelsOf_eq_flatMap, ← Dict.ofList_filterMap]
    generalize hlabels : addLabels [] ((nodeRanges nodes).flatMap fun n => n.2.map (·.1)) = labels
    have hrows : (distributionOfRanges (nodeRanges nodes)).nodes = .ofList
        ((nodeRanges nodes).map fun n => (n.1, .ofList (labels.map (·, 0) ++ n.2))) := by
      rw [← hlabels]
      rfl
    rw [hrows, nodeRanges_eq_filterMap, List.map_filterMap]
    refine congrArg Dict.ofList (List.filterMap_congr fun e _ => ?_)
    simp only [Option.map_map]
    rfl
  rw [hnodes, Dict.get?_filterMap, Option.map_bind]
  rfl

/-! ### Distributions -/

/-- What a distribution of named ranges shows of the histograms of a namespace: its columns are the
labels of all ranges of any node, each once, in the order in which `labelStart` has their starts and
then in that of the names; labels without a start are last exactly if those with the greatest start
are named before them; and the rows of the nodes are lined up with the columns. -/
structure AlignsRanges (nodes : Keyed Histogram) (d : NamespaceDistribution) : Prop where
  mem_columns : ∀ label, label ∈ d.columns ↔
    ∃ node h r, (nodes.get? node).bind logarithmic? = some h ∧ r ∈ h.ranges ∧ IsLabelOf r.1 label
  nodup_columns : d.columns.Nodup
  pairwise_columns : d.columns.Pairwise (OrderedBy labelStart (labelsOf nodes))
  pairwise_startOf_iff : d.columns.Pairwise (OrderedBy startOf (labelsOf nodes)) ↔
    ∀ a ∈ d.columns, ∀ b ∈ d.columns, startOf a = ⊤ → startOf b = Integer.nat64Max →
      (labelsOf nodes).idxOf b < (labelsOf nodes).idxOf a
  rows : ∀ node, Option.Rel (IsAligned d.columns) ((nodes.get? node).bind logarithmic?)
    (d.nodes.get? node)

/-- **The columns are the labels of all ranges in the order of their starts, and every node has a
count under each of them.** -/
theorem alignsRanges_distributionsOfRanges (data : NodeHistograms) (name : String) :
    Option.Rel AlignsRanges ((Keyed.flip data).get? name)
      ((distributionsOfRanges data).get? name) := by
  rw [distributionsOfRanges, Dict.get?_map]
  cases (Keyed.flip data).get? name with
  | none => exact Option.Rel.none
  | some nodes =>
      refine Option.Rel.some ⟨fun label => ?_, nodup_columns_distributionOfRanges nodes,
        pairwise_orderedBy_labelStart nodes, ?_, fun node => ?_⟩
      · rw [mem_columns_distributionOfRanges, mem_labelsOf]
      · simp only [mem_columns_distributionOfRanges]
        exact pairwise_orderedBy_startOf_iff nodes
      · rw [get?_nodes_distributionOfRanges]
        cases hh : (nodes.get? node).bind logarithmic? with
        | none => exact Option.Rel.none
        | some h => exact Option.Rel.some (isAligned_alignedRow hh)

/-- One node with two ranges, of which the first one starts at a size that does not fit 64 bits and
the second one at the greatest that does. -/
def greatestStart : NodeHistograms :=
  let h : LogHistogram :=
    { name := "objsz", units := "bytes",
      ranges := [("16E-32E", 1), ("18446744073709551615-16E", 2)] }
  .ofList [("n1", .data (.ofList [("test", .data (.logarithmic h))]))]

/-- The range without a start stands before the one that has the greatest. -/
theorem not_pairwise_startOf_greatestStart : ∃ nodes d,
    (Keyed.flip greatestStart).get? "test" = some nodes ∧
      (distributionsOfRanges greatestStart).get? "test" = some d ∧
      d.columns = ["16E to 32E", "18446744073709551615 to 16E"] ∧
      startOf "16E to 32E" = ⊤ ∧ startOf "18446744073709551615 to 16E" = Integer.nat64Max ∧
      ¬ d.columns.Pairwise (OrderedBy startOf (labelsOf nodes)) := by
  obtain ⟨nodes, hnodes⟩ : ∃ nodes, nodes = ((Keyed.flip greatestStart).get? "test").getD .empty :=
    ⟨_, rfl⟩
  have hcolumns : (distributionOfRanges (nodeRanges nodes)).columns =
      ["16E to 32E", "18446744073709551615 to 16E"] := by
    rw [columns_distributionOfRanges, hnodes]
    exact List.mergeSort_of_pairwise (by decide +kernel)
  have htop : startOf "16E to 32E" = ⊤ := by decide +kernel
  have hmax : startOf "18446744073709551615 to 16E" = Integer.nat64Max := by decide +kernel
  refine ⟨nodes, distributionOfRanges (nodeRanges nodes), by rw [hnodes]; rfl, by rw [hnodes]; rfl,
    hcolumns, htop, hmax, fun hlast => ?_⟩
  rw [hcolumns, List.pairwise_pair, OrderedBy, htop, hmax] at hlast
  rcases hlast with h | ⟨h, -⟩
  · exact not_top_lt h
  · exact ENat.top_ne_natCast _ h

end ClusterReport.Histogram
