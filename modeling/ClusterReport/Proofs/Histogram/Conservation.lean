/-
**No object is lost in a byte distribution.**

The ranges of a distribution are cut from the buckets that are populated on any node, and every
node counts its own buckets in them, under labels that depend on its own width and block size.
Labels are cut off to whole units, so that several ranges may have one label.  Still every populated
bucket of a node is counted exactly once: a value in the row of the node is the sum over the ranges
with its label, and the row adds up to all objects of the node, unless there are more of them than
64 bits can count.

Main definitions:

* `ClusterReport.Histogram.objectsIn` — the objects in the raw buckets of a range;
* `ClusterReport.Histogram.displayRanges` — the ranges shown for some nodes;
* `ClusterReport.Histogram.Conserves` — what it is for a row to conserve the objects of a node;
* `ClusterReport.Histogram.LabelledCounts.IsTally` — what a row is as long as nothing wraps around;
* `ClusterReport.Histogram.linearAt?`, `rowAt?` — the histogram of a node for a namespace, and its
  row in the distribution of that namespace.

Main results:

* `ClusterReport.Histogram.mem_populatedBuckets` — which buckets are populated;
* `ClusterReport.Histogram.LabelledCounts.IsTally.addRange` — a range is one more count in a row;
* `ClusterReport.Histogram.conserves_row` — the row of a node conserves its objects;
* `ClusterReport.Histogram.rows_conserve` — **every fetched histogram has a row in the distribution
  of its namespace, and every row conserves the objects of its histogram**.
-/

import ClusterReport.Proofs.Dict.Tally
import ClusterReport.Proofs.Fetched.Flip
import ClusterReport.Proofs.Histogram.Ranges
import Mathlib.Algebra.BigOperators.Intervals
import Mathlib.Data.List.GetD

set_option relaxedAutoImplicit false
set_option autoImplicit false

namespace ClusterReport.Histogram

/-! ### Populated buckets -/

theorem length_le_foldl_max (lengths : List Nat) (start : Nat) :
    start ≤ lengths.foldl max start ∧ ∀ n ∈ lengths, n ≤ lengths.foldl max start := by
  induction lengths generalizing start with
  | nil => simp
  | cons n rest ih =>
      obtain ⟨hstart, hrest⟩ := ih (max start n)
      rw [List.foldl_cons]
      refine ⟨by omega, fun m hm => ?_⟩
      rcases List.mem_cons.1 hm with rfl | hm
      · omega
      · exact hrest m hm

/-- A bucket is populated if it holds something on some node. -/
theorem mem_populatedBuckets {nodes : List NodeBuckets} {bucket : Nat} :
    (bucket : Int) ∈ populatedBuckets nodes ↔ ∃ n ∈ nodes, 0 < n.counts.getD bucket 0 := by
  have hsome : isPopulated nodes bucket = true ↔ ∃ n ∈ nodes, 0 < n.counts.getD bucket 0 := by
    simp [isPopulated]
  rw [← hsome, populatedBuckets, List.mem_map]
  constructor
  · rintro ⟨i, hi, heq⟩
    obtain rfl : i = bucket := by simpa using heq
    exact (List.mem_filter.1 hi).2
  · intro hpop
    refine ⟨bucket, List.mem_filter.2 ⟨List.mem_range.2 ?_, hpop⟩, rfl⟩
    obtain ⟨n, hn, hpos⟩ := hsome.1 hpop
    have hlt : bucket < n.counts.length := by
      by_contra hge
      rw [List.getD_eq_default _ _ (by omega)] at hpos
      omega
    have hle := (length_le_foldl_max (nodes.map fun n => n.counts.length) 0).2 n.counts.length
      (List.mem_map.2 ⟨n, hn, rfl⟩)
    omega

theorem pairwise_populatedBuckets (nodes : List NodeBuckets) :
    (populatedBuckets nodes).Pairwise (· < ·) := by
  rw [populatedBuckets, List.pairwise_map]
  refine (List.pairwise_lt_range.filter _).imp fun {a b} h => ?_
  exact Int.ofNat_lt.2 h

theorem nonneg_of_mem_populatedBuckets {nodes : List NodeBuckets} {bucket : Int}
    (h : bucket ∈ populatedBuckets nodes) : 0 ≤ bucket := by
  obtain ⟨i, -, rfl⟩ := List.mem_map.1 h
  exact Int.natCast_nonneg i

/-! ### The objects in a range -/

/-- The objects in the raw buckets of a range. -/
def objectsIn (counts : List Nat) (range : Int × Int) : Nat :=
  ∑ i ∈ Finset.Ico range.1.toNat range.2.toNat, counts.getD i 0

/-- The objects in the raw buckets before a boundary. -/
def objectsBefore (counts : List Nat) (boundary : Int) : Nat :=
  ∑ i ∈ Finset.range boundary.toNat, counts.getD i 0

theorem sum_take (counts : List Nat) (k : Nat) :
    (counts.take k).sum = ∑ i ∈ Finset.range k, counts.getD i 0 := by
  induction k with
  | zero => simp
  | succ k ih =>
      rw [List.take_add_one, List.sum_append, ih, Finset.sum_range_succ, List.getD_eq_getElem?_getD]
      cases counts[k]? <;> simp

theorem objectsBefore_add {counts : List Nat} {range : Int × Int} (h : range.1 ≤ range.2) :
    objectsBefore counts range.1 + objectsIn counts range = objectsBefore counts range.2 :=
  Finset.sum_range_add_sum_Ico _ (Int.toNat_le_toNat h)

theorem objectsIn_le_sum (counts : List Nat) {range : Int × Int} (h : range.1 ≤ range.2) :
    objectsIn counts range ≤ counts.sum := by
  have hadd : objectsBefore counts range.1 + objectsIn counts range =
      objectsBefore counts range.2 := objectsBefore_add h
  have hsplit := List.sum_take_add_sum_drop counts range.2.toNat
  rw [objectsBefore, objectsBefore, ← sum_take, ← sum_take] at hadd
  omega

theorem countIn_eq_objectsIn (n : NodeBuckets) (hfits : n.counts.sum ≤ Integer.nat64Max)
    {range : Int × Int} (h : 0 ≤ range.1) (h' : range.1 ≤ range.2) :
    n.countIn range = objectsIn n.counts range := by
  have hslice : Integer.natSum
      ((n.counts.drop range.1.toNat).take (range.2 - range.1).toNat) =
        objectsIn n.counts range := by
    have hsplit : (n.counts.take range.2.toNat).sum = (n.counts.take range.1.toNat).sum +
        Integer.natSum ((n.counts.drop range.1.toNat).take (range.2 - range.1).toNat) := by
      have hlength : range.2.toNat = range.1.toNat + (range.2 - range.1).toNat := by omega
      rw [Integer.natSum_eq_sum, hlength, List.take_add, List.sum_append]
    rw [sum_take, sum_take] at hsplit
    have hadd : objectsBefore n.counts range.1 + objectsIn n.counts range =
        objectsBefore n.counts range.2 := objectsBefore_add h'
    unfold objectsBefore at hadd
    omega
  rw [NodeBuckets.countIn, hslice]
  exact Integer.wrapNat64_of_le (Nat.le_trans (objectsIn_le_sum n.counts h') hfits)

/-- If nothing is in the buckets from a boundary on, all objects are before it. -/
theorem objectsBefore_eq_sum {counts : List Nat} {boundary : Int}
    (h : ∀ i : Nat, boundary ≤ i → counts.getD i 0 = 0) :
    objectsBefore counts boundary = counts.sum := by
  have hdrop : (counts.drop boundary.toNat).sum = 0 := by
    refine List.sum_eq_zero fun x hx => ?_
    obtain ⟨j, hj, rfl⟩ := List.mem_drop_iff_getElem.1 hx
    have hzero := h (boundary.toNat + j) (by omega)
    rwa [List.getD_eq_getElem _ _ (by omega)] at hzero
  rw [objectsBefore, ← sum_take, ← List.sum_take_add_sum_drop counts boundary.toNat, hdrop]
  rfl

/-! ### Rows -/

/-- The ranges shown for some nodes. -/
def displayRanges (nodes : List NodeBuckets) (bucketCount : Nat) : List (Int × Int) :=
  rangesBetween (bounds (populatedBuckets nodes) bucketCount)

/-- What it is for a row to conserve the objects that a node has in its buckets: they are all there
in the sum of the row, the value of a label is what the buckets of the ranges with this label hold,
and no bucket lies in more than one range, a populated one in exactly one. -/
structure Conserves (n : NodeBuckets) (ranges : List (Int × Int)) (row : Dict Nat) : Prop where
  total_eq : row.total = n.counts.sum
  get?_eq : ∀ label, row.get? label =
    if ranges.any fun range => n.label range = label then
      some ((ranges.filter fun range => n.label range = label).map (objectsIn n.counts)).sum
    else none
  countP_le_one : ∀ bucket : Nat, ranges.countP (inRange bucket) ≤ 1
  countP_eq_one : ∀ bucket : Nat, 0 < n.counts.getD bucket 0 → ranges.countP (inRange bucket) = 1

theorem of_mem_displayRanges {nodes : List NodeBuckets} {bucketCount : Nat} {range : Int × Int}
    (h : range ∈ displayRanges nodes bucketCount) : 0 ≤ range.1 ∧ range.1 ≤ range.2 := by
  have hpair := pairwise_bounds (pairwise_populatedBuckets nodes) bucketCount
  obtain ⟨hmem, hle⟩ := le_of_mem_rangesBetween hpair h
  refine ⟨?_, hle⟩
  rcases eq_nil_or_ends (populatedBuckets nodes) with hnil | ⟨first, last, hfirst, hlast⟩
  · rw [hnil, bounds_nil] at hmem
    exact absurd hmem List.not_mem_nil
  · -- the first boundary is a populated bucket, and the others are not before it
    have hnonneg := nonneg_of_mem_populatedBuckets (List.mem_of_mem_head? hfirst)
    obtain ⟨rest, hrest⟩ := List.head?_eq_some_iff.1 (head?_bounds hfirst hlast bucketCount)
    rw [hrest] at hmem hpair
    rcases List.mem_cons.1 hmem with heq | hmem
    · omega
    · have hle' := (List.pairwise_cons.1 hpair).1 range.1 hmem
      omega

/-- What a row is as long as nothing wraps around: a tally of some counts by their labels, of which
those are shown that have something under them. -/
structure LabelledCounts.IsTally (row : LabelledCounts) (counts : List (String × Nat)) : Prop where
  counts_eq : row.counts = Dict.tally counts .empty
  mem_shown_iff : ∀ label, label ∈ row.shown ↔ 0 < row.counts.countAt label

/-- **One more range of a node is one more count.** -/
theorem LabelledCounts.IsTally.addRange {row : LabelledCounts} {counts : List (String × Nat)}
    (h : row.IsTally counts) (n : NodeBuckets) (range : Int × Int)
    (hfits : (counts.map (·.2)).sum + n.countIn range ≤ Integer.nat64Max) :
    (n.addRange row range).IsTally (counts ++ [(n.label range, n.countIn range)]) := by
  have hle : row.counts.countAt (n.label range) ≤ (counts.map (·.2)).sum := by
    have htotal := row.counts.countAt_le_total (n.label range)
    rwa [h.counts_eq, Dict.total_tally, Dict.total_empty, Nat.zero_add, ← h.counts_eq] at htotal
  have hwrap : Integer.wrapNat64 ((row.counts.get? (n.label range)).getD 0 + n.countIn range) =
      row.counts.countAt (n.label range) + n.countIn range :=
    Integer.wrapNat64_of_le (Nat.le_trans (Nat.add_le_add_right hle _) hfits)
  constructor
  case counts_eq =>
    rw [Dict.tally_concat, ← h.counts_eq, Dict.insertWith_add, NodeBuckets.addRange, hwrap]
    rfl
  case mem_shown_iff =>
    intro label
    have hold := h.mem_shown_iff label
    simp only [NodeBuckets.addRange, hwrap, Dict.countAt_insert]
    by_cases hlabel : label = n.label range
    · rw [if_pos hlabel, hlabel]
      rw [hlabel] at hold
      split
      case isTrue hpos => exact iff_of_true List.mem_cons_self hpos
      case isFalse hzero =>
        rw [hold]
        omega
    · rw [if_neg hlabel, ← hold]
      split
      case isTrue => rw [List.mem_cons, or_iff_right hlabel]
      case isFalse => rfl

/-- **The row of a node is a tally of what it counts in the ranges**, under its labels. -/
theorem isTally_row (n : NodeBuckets) {ranges : List (Int × Int)}
    (hfits : (ranges.map n.countIn).sum ≤ Integer.nat64Max) :
    (n.row ranges).IsTally (ranges.map fun range => (n.label range, n.countIn range)) := by
  induction ranges using List.reverseRecOn with
  | nil => exact ⟨rfl, fun label => iff_of_false List.not_mem_nil (Nat.lt_irrefl 0)⟩
  | append_singleton ranges range ih =>
      rw [List.map_append, List.sum_append, List.map_singleton, List.sum_singleton] at hfits
      have hrow := (ih (Nat.le_trans (Nat.le_add_right _ _) hfits)).addRange n range
        (by rwa [List.map_map])
      rw [List.map_append, List.map_singleton, NodeBuckets.row, List.foldl_concat]
      exact hrow

theorem sum_objectsIn_displayRanges {nodes : List NodeBuckets} {n : NodeBuckets} (hn : n ∈ nodes)
    (bucketCount : Nat) :
    ((displayRanges nodes bucketCount).map (objectsIn n.counts)).sum = n.counts.sum := by
  have hpop : ∀ i : Nat, (i : Int) ∉ populatedBuckets nodes → n.counts.getD i 0 = 0 := by
    intro i hi
    by_contra hne
    exact hi (mem_populatedBuckets.2 ⟨n, hn, Nat.pos_of_ne_zero hne⟩)
  rcases eq_nil_or_ends (populatedBuckets nodes) with hnil | ⟨first, last, hfirst, hlast⟩
  · have hall : objectsBefore n.counts 0 = n.counts.sum :=
      objectsBefore_eq_sum fun i _ => hpop i (by simp [hnil])
    rw [displayRanges, hnil, bounds_nil, ← hall]
    rfl
  · have hincreasing := pairwise_populatedBuckets nodes
    have hbefore : objectsBefore n.counts first = 0 := by
      refine Finset.sum_eq_zero fun i hi => hpop i fun hmem => ?_
      have hle := le_of_head? hincreasing hfirst i hmem
      have hlt := Finset.mem_range.1 hi
      omega
    have hall : objectsBefore n.counts (last + 1) = n.counts.sum := by
      refine objectsBefore_eq_sum fun i hi => hpop i fun hmem => ?_
      have hle := le_of_getLast? hincreasing hlast i hmem
      omega
    have hsum := sum_rangesBetween (objectsBefore n.counts) (objectsIn n.counts)
      (fun range hrange => objectsBefore_add (of_mem_displayRanges hrange).2)
      (head?_bounds hfirst hlast bucketCount) (getLast?_bounds hfirst hlast bucketCount)
    rw [hbefore, hall, Nat.zero_add] at hsum
    exact hsum

/-- No bucket lies in more than one of the ranges shown, and a populated one lies in exactly one. -/
theorem countP_displayRanges (nodes : List NodeBuckets) (bucketCount bucket : Nat) :
    (displayRanges nodes bucketCount).countP (inRange bucket) ≤ 1 ∧
      ((bucket : Int) ∈ populatedBuckets nodes →
        (displayRanges nodes bucketCount).countP (inRange bucket) = 1) := by
  have hincreasing := pairwise_populatedBuckets nodes
  rcases eq_nil_or_ends (populatedBuckets nodes) with hnil | ⟨first, last, hfirst, hlast⟩
  · rw [displayRanges, hnil, bounds_nil]
    simp
  · rw [displayRanges, countP_rangesBetween (pairwise_bounds hincreasing bucketCount)
      (head?_bounds hfirst hlast bucketCount) (getLast?_bounds hfirst hlast bucketCount)]
    constructor
    · split <;> omega
    · intro hmem
      have hge := le_of_head? hincreasing hfirst bucket hmem
      have hle := le_of_getLast? hincreasing hlast bucket hmem
      rw [if_pos ⟨hge, by omega⟩]

/-- A node counts over the ranges shown what it has in their raw buckets, and its row is a tally of
that. -/
theorem isTally_row_displayRanges {nodes : List NodeBuckets} {n : NodeBuckets} (hn : n ∈ nodes)
    (hfits : n.counts.sum ≤ Integer.nat64Max) (bucketCount : Nat) :
    (∀ range ∈ displayRanges nodes bucketCount, n.countIn range = objectsIn n.counts range) ∧
      (n.row (displayRanges nodes bucketCount)).IsTally
        ((displayRanges nodes bucketCount).map fun range => (n.label range, n.countIn range)) := by
  have hcount : ∀ range ∈ displayRanges nodes bucketCount,
      n.countIn range = objectsIn n.counts range := fun range hrange =>
    countIn_eq_objectsIn n hfits (of_mem_displayRanges hrange).1 (of_mem_displayRanges hrange).2
  refine ⟨hcount, isTally_row n ?_⟩
  rwa [List.map_congr_left hcount, sum_objectsIn_displayRanges hn bucketCount]

/-- **The row of a node conserves its objects**, if there are not too many to count. -/
theorem conserves_row {nodes : List NodeBuckets} {n : NodeBuckets} (hn : n ∈ nodes)
    (hfits : n.counts.sum ≤ Integer.nat64Max) (bucketCount : Nat) :
    Conserves n (displayRanges nodes bucketCount)
      (n.row (displayRanges nodes bucketCount)).counts := by
  obtain ⟨hcount, htally⟩ := isTally_row_displayRanges hn hfits bucketCount
  constructor
  case total_eq =>
    rw [htally.counts_eq, Dict.total_tally, List.map_map, Dict.total_empty, Nat.zero_add,
      ← sum_objectsIn_displayRanges hn bucketCount]
    exact congrArg List.sum (List.map_congr_left hcount)
  case get?_eq =>
    intro label
    rw [htally.counts_eq, Dict.get?_tally, List.any_map, Dict.countOf, List.filter_map,
      List.map_map, Dict.get?_empty, Option.getD_none, Nat.zero_add]
    rw [← List.map_congr_left fun range hrange => hcount range (List.mem_filter.1 hrange).1]
    rfl
  case countP_le_one => exact fun bucket => (countP_displayRanges nodes bucketCount bucket).1
  case countP_eq_one =>
    intro bucket hpos
    exact (countP_displayRanges nodes bucketCount bucket).2 (mem_populatedBuckets.2 ⟨n, hn, hpos⟩)

/-! ### Distributions -/

def linear? : Fetched Histogram → Option LinearHistogram
  | .data (.linear h) => some h
  | _ => none

def bucketsOf (builds : Dict String) (node : String) (h : LinearHistogram) : NodeBuckets :=
  ⟨node, h.width, blockOf builds node, h.counts⟩

/-- The histogram of a node for a namespace, if it was fetched and has buckets of equal width. -/
def linearAt? (data : NodeHistograms) (node name : String) : Option LinearHistogram :=
  ((data.data? node).bind fun namespaces => namespaces.get? name).bind linear?

/-- The row of a node in the distribution of a namespace. -/
def rowAt? (distributions : Dict NamespaceDistribution) (name node : String) : Option (Dict Nat) :=
  (distributions.get? name).bind fun d => d.nodes.get? node

/-- The nodes with a histogram for a namespace. -/
def nodesOf (builds : Dict String) (data : NodeHistograms) (name : String) : List NodeBuckets :=
  nodeBuckets builds (((Keyed.flip data).get? name).getD .empty)

theorem nodeBuckets_eq_filterMap (builds : Dict String) (nodes : Keyed Histogram) :
    nodeBuckets builds nodes =
      nodes.entries.filterMap fun e => (linear? e.2).map (bucketsOf builds e.1) := by
  refine List.filterMap_congr fun e _ => ?_
  obtain ⟨node, fetched⟩ := e
  cases fetched with
  | failed cause => rfl
  | data h => cases h <;> rfl

theorem mem_nodeBuckets {builds : Dict String} {nodes : Keyed Histogram} {n : NodeBuckets} :
    n ∈ nodeBuckets builds nodes ↔
      ∃ node h, (nodes.get? node).bind linear? = some h ∧ bucketsOf builds node h = n := by
  rw [nodeBuckets_eq_filterMap, List.mem_filterMap]
  constructor
  · rintro ⟨e, he, hbuckets⟩
    obtain ⟨h, hlinear, rfl⟩ := Option.map_eq_some_iff.1 hbuckets
    refine ⟨e.1, h, ?_, rfl⟩
    rw [Dict.get?, nodes.sorted.get?_of_mem he, Option.bind_some, hlinear]
  · rintro ⟨node, h, hh, rfl⟩
    obtain ⟨fetched, hfetched, hlinear⟩ := Option.bind_eq_some_iff.1 hh
    exact ⟨(node, fetched), Entries.mem_of_get? hfetched, by rw [hlinear]; rfl⟩

/-- A distribution has a row for every histogram of equal width, and for nothing else. -/
theorem nodes_distributionOfBuckets (builds : Dict String) (nodes : Keyed Histogram)
    (bucketCount : Nat) :
    (distributionOfBuckets (nodeBuckets builds nodes) bucketCount).nodes =
      nodes.filterMap fun node fetched => (linear? fetched).map fun h =>
        ((bucketsOf builds node h).row
          (displayRanges (nodeBuckets builds nodes) bucketCount)).counts := by
  generalize hranges : displayRanges (nodeBuckets builds nodes) bucketCount = ranges
  have hnodes : (distributionOfBuckets (nodeBuckets builds nodes) bucketCount).nodes =
      .ofList ((nodeBuckets builds nodes).map fun n => (n.node, (n.row ranges).counts)) := by
    rw [← hranges, distributionOfBuckets, List.map_map]
    rfl
  rw [hnodes, nodeBuckets_eq_filterMap, List.map_filterMap, ← Dict.ofList_filterMap]
  refine congrArg Dict.ofList (List.filterMap_congr fun e _ => ?_)
  simp only [Option.map_map]
  rfl

theorem get?_nodes_distributionOfBuckets (builds : Dict String) (nodes : Keyed Histogram)
    (bucketCount : Nat) (node : String) :
    (distributionOfBuckets (nodeBuckets builds nodes) bucketCount).nodes.get? node =
      ((nodes.get? node).bind linear?).map fun h =>
        ((bucketsOf builds node h).row
          (displayRanges (nodeBuckets builds nodes) bucketCount)).counts := by
  rw [nodes_distributionOfBuckets, Dict.get?_filterMap, Option.map_bind]
  rfl

/-- **Every fetched histogram has a row in the distribution of its namespace, and every row
conserves the objects of its histogram**, whatever the releases of the nodes and however many
buckets are asked for, unless there are too many objects to count. -/
theorem rows_conserve (builds : Dict String) (bucketCount : Nat) (data : NodeHistograms)
    (name node : String) :
    Option.Rel
      (fun h row => h.counts.sum ≤ Integer.nat64Max → Conserves (bucketsOf builds node h)
        (displayRanges (nodesOf builds data name) bucketCount) row)
      (linearAt? data node name)
      (rowAt? (distributionsOfBuckets builds bucketCount data) name node) := by
  have hflip := Keyed.under?_flip data name node
  have hlinear : linearAt? data node name =
      ((Keyed.flip data).get? name).bind fun nodes => (nodes.get? node).bind linear? := by
    rw [linearAt?, ← hflip, Keyed.under?, Option.bind_assoc]
  have hrow : rowAt? (distributionsOfBuckets builds bucketCount data) name node =
      ((Keyed.flip data).get? name).bind fun nodes => ((nodes.get? node).bind linear?).map fun h =>
        ((bucketsOf builds node h).row
          (displayRanges (nodeBuckets builds nodes) bucketCount)).counts := by
    rw [rowAt?, distributionsOfBuckets, Dict.get?_map, Option.bind_map]
    exact Option.bind_congr fun nodes _ =>
      get?_nodes_distributionOfBuckets builds nodes bucketCount node
  rw [hlinear, hrow, nodesOf]
  cases (Keyed.flip data).get? name with
  | none => exact Option.Rel.none
  | some nodes =>
      simp only [Option.bind_some, Option.getD_some]
      cases hh : (nodes.get? node).bind linear? with
      | none => exact Option.Rel.none
      | some h =>
          exact Option.Rel.some fun hfits =>
            conserves_row (mem_nodeBuckets.2 ⟨node, h, hh, rfl⟩) hfits bucketCount

/-- A histogram with an object in each of two buckets of 128 bytes, both of which lie within the
second kilobyte. -/
def adjacentHistogram : LinearHistogram :=
  { name := "objsz", width := 1, counts := [0, 0, 0, 0, 0, 0, 0, 0, 0, 1, 1], units := none }

/-- One node with two buckets of one label. -/
def adjacentBuckets : NodeHistograms :=
  .ofList [("n1", .data (.ofList [("test", .data (.linear adjacentHistogram))]))]

theorem rows_conserve_adjacentBuckets : ∃ h row,
    linearAt? adjacentBuckets "n1" "test" = some h ∧
      rowAt? (distributionsOfBuckets (.ofList [("n1", "6.0.0")]) 5 adjacentBuckets) "test" "n1" =
        some row ∧
      h.counts.sum ≤ Integer.nat64Max ∧
      Conserves (bucketsOf (.ofList [("n1", "6.0.0")]) "n1" h)
        (displayRanges (nodesOf (.ofList [("n1", "6.0.0")]) adjacentBuckets "test") 5) row := by
  have hrel := rows_conserve (.ofList [("n1", "6.0.0")]) 5 adjacentBuckets "test" "n1"
  have hlinear : linearAt? adjacentBuckets "n1" "test" = some adjacentHistogram := rfl
  have hfits : adjacentHistogram.counts.sum ≤ Integer.nat64Max := by decide
  rw [hlinear] at hrel ⊢
  generalize rowAt? _ _ _ = row? at hrel ⊢
  cases hrel with
  | some hconserves => exact ⟨_, _, rfl, rfl, hfits, hconserves hfits⟩

end ClusterReport.Histogram
