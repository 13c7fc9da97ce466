/-
**Byte distributions.**

A byte distribution shows how many objects of a namespace fall into each of a few ranges of sizes,
node by node.  For buckets of equal width the ranges are cut from the buckets that hold anything;
named ranges are taken over as they are and lined up across nodes.

Main definitions:

* `ClusterReport.Histogram.rangeLabel` — the label of a range of buckets;
* `ClusterReport.Histogram.bounds` — where the ranges begin and end;
* `ClusterReport.Histogram.NamespaceDistribution` — the columns and the rows of one namespace;
* `ClusterReport.Histogram.distributionOfBuckets`, `distributionOfRanges` — of one namespace, and
  with `distributionsOfBuckets`, `distributionsOfRanges` of all;
* `ClusterReport.Histogram.output` — what is shown of the histograms of one name.
-/

import ClusterReport.ByteSize
import ClusterReport.Histogram.Decile
import ClusterReport.ReleaseGate
import ClusterReport.Text.Pieces

set_option relaxedAutoImplicit false
set_option autoImplicit false

namespace ClusterReport.Histogram

/-! ### Labels -/

/-- A size without the blank before its unit. -/
def compactSize (bytes : Int) : String :=
  String.ofList ((ByteSize.toText bytes).toList.filter (· ≠ ' '))

def rangeKey (start stop : String) : String := start ++ " to " ++ stop

/-- Ranges that reach past this bucket are shown without an end. -/
def lastBucket : Int := 99

/-- The label of the buckets from `current` on and before `next`, each of `width` blocks of
`block` bytes. -/
def rangeLabel (current next width block : Int) : String :=
  let stop := compactSize (Integer.wrapInt64 ((next * width - 1) * block))
  if 0 < current then
    let previousEnd := Integer.wrapInt64 ((current * width - 1) * block)
    let start :=
      compactSize (if previousEnd < 1 then 0 else Integer.wrapInt64 (previousEnd + 1))
    if current = lastBucket ∨ lastBucket < next then ">" ++ start else rangeKey start stop
  else rangeKey "0B" stop

/-! ### Ranges of buckets -/

/-- The boundaries of `count` ranges from `start` on, of which those from number `widenFrom` on
are one bucket wider. -/
def evenBounds (start width : Int) (widenFrom : Int) : Nat → Int → List Int
  | 0, _ => [start]
  | n + 1, index =>
    let width := if index = widenFrom then width + 1 else width
    start :: evenBounds (start + width) width widenFrom n (index + 1)

/-- The boundaries of the ranges shown for some buckets, given in increasing order.  Each bucket
has a range of its own if that makes no more ranges than asked for; otherwise the span from the
first to the last bucket is cut evenly, the last ranges being one bucket wider where it does not
divide. -/
def bounds (populated : List Int) (bucketCount : Nat) : List Int :=
  let count := max bucketCount 1
  if populated.length ≤ count then populated.flatMap fun b => [b, b + 1]
  else
    match populated.head?, populated.getLast? with
    | some first, some last =>
      let size := last - first + 1
      evenBounds first (size / count) (count - size % count) count 0
    | _, _ => []

def rangesBetween (bounds : List Int) : List (Int × Int) := bounds.zip bounds.tail

/-- A node's buckets with the size of its blocks. -/
structure NodeBuckets where
  node : String
  width : Int
  block : Int
  counts : List Nat
deriving DecidableEq

/-- The size of a node's blocks; a node of an unknown release has the usual ones. -/
def blockOf (builds : Dict String) (node : String) : Int :=
  match builds.get? node with
  | some build => ReleaseGate.blockSize ⟨build⟩
  | none => ReleaseGate.defaultBlockSize

/-- The nodes whose histogram was fetched and has buckets of equal width. -/
def nodeBuckets (builds : Dict String) (nodes : Keyed Histogram) : List NodeBuckets :=
  nodes.entries.filterMap fun (node, h) =>
    match h with
    | .data (.linear h) => some ⟨node, h.width, blockOf builds node, h.counts⟩
    | _ => none

def isPopulated (nodes : List NodeBuckets) (bucket : Nat) : Bool :=
  nodes.any fun n => 0 < n.counts.getD bucket 0

/-- The buckets that hold something on some node, in increasing order. -/
def populatedBuckets (nodes : List NodeBuckets) : List Int :=
  let longest := (nodes.map fun n => n.counts.length).foldl max 0
  ((List.range longest).filter (isPopulated nodes)).map Int.ofNat

def NodeBuckets.label (n : NodeBuckets) (range : Int × Int) : String :=
  rangeLabel range.1 range.2 n.width n.block

def NodeBuckets.countIn (n : NodeBuckets) (range : Int × Int) : Nat :=
  Integer.wrapNat64
    (Integer.natSum ((n.counts.drop range.1.toNat).take (range.2 - range.1).toNat))

/-- The objects of a node by the label of their range, with the labels that are to be shown. -/
structure LabelledCounts where
  counts : Dict Nat := .empty
  shown : List String := []

/-- One more range of a node counted.  Its label is to be shown once there is something under it. -/
def NodeBuckets.addRange (n : NodeBuckets) (row : LabelledCounts) (range : Int × Int) :
    LabelledCounts :=
  let label := n.label range
  let total := Integer.wrapNat64 ((row.counts.get? label).getD 0 + n.countIn range)
  { counts := row.counts.insert label total
    shown := if 0 < total then label :: row.shown else row.shown }

/-- The objects of a node in some ranges. -/
def NodeBuckets.row (n : NodeBuckets) (ranges : List (Int × Int)) : LabelledCounts :=
  ranges.foldl n.addRange {}

/-! ### Distributions -/

/-- The columns that are shown of a namespace, and each node's counts by label; the counts may
have labels that are not shown because nothing is in them. -/
structure NamespaceDistribution where
  columns : List String
  nodes : Dict (Dict Nat)

/-- A list with the labels appended that are not in it. -/
def addLabels (columns labels : List String) : List String :=
  labels.foldl (fun columns label =>
    if columns.contains label then columns else columns ++ [label]) columns

/-- The distribution of buckets of equal width: the columns are the labels under which some node
has something, first those for the width of the last node and the greatest blocks of any node. -/
def distributionOfBuckets (nodes : List NodeBuckets) (bucketCount : Nat) :
    NamespaceDistribution :=
  let ranges := rangesBetween (bounds (populatedBuckets nodes) bucketCount)
  let width := (nodes.getLast?.map (·.width)).getD 1
  let block := (nodes.map (·.block)).max?.getD ReleaseGate.defaultBlockSize
  let common := ranges.map fun range => rangeLabel range.1 range.2 width block
  let columns := addLabels common (nodes.flatMap fun n => ranges.map n.label)
  let rows := nodes.map fun n => (n.node, n.row ranges)
  let isShown (label : String) := rows.any fun r => r.2.shown.contains label
  ⟨columns.filter isShown, .ofList (rows.map fun r => (r.1, r.2.counts))⟩

/-- The text before the first occurrence of ` to `, or all of it. -/
def beforeTo : List Char → List Char
  | [] => []
  | c :: rest => if [' ', 't', 'o', ' '].isPrefixOf (c :: rest) then [] else c :: beforeTo rest

/-- The size at which a labelled range starts; an unreadable one counts as the greatest. -/
def labelStart (label : String) : Nat :=
  (ByteSize.ofLabel? (beforeTo label.toList)).getD Integer.nat64Max

/-- A named range's label; a name without a hyphen has none. -/
def labelOfRange? (range : String) : Option String :=
  (Text.cut (· = '-') range.toList).map fun p =>
    rangeKey (String.ofList p.1) (String.ofList p.2)

def labelledRanges (h : LogHistogram) : List (String × Nat) :=
  h.ranges.filterMap fun r => (labelOfRange? r.1).map fun label => (label, r.2)

/-- The labelled counts of the nodes whose histogram was fetched and has named ranges. -/
def nodeRanges (nodes : Keyed Histogram) : List (String × List (String × Nat)) :=
  nodes.entries.filterMap fun (node, h) =>
    match h with
    | .data (.logarithmic h) => some (node, labelledRanges h)
    | _ => none

/-- The distribution of named ranges: every label of any node is a column, in the order of the
sizes at which the ranges start, and every node has a count under each. -/
def distributionOfRanges (nodes : List (String × List (String × Nat))) : NamespaceDistribution :=
  let labels := addLabels [] (nodes.flatMap fun n => n.2.map (·.1))
  let columns := labels.mergeSort fun a b => labelStart a ≤ labelStart b
  let row (counts : List (String × Nat)) : Dict Nat :=
    Dict.ofList (labels.map (·, 0) ++ counts)
  ⟨columns, .ofList (nodes.map fun n => (n.1, row n.2))⟩

def countsJson (row : Dict Nat) : Json := .ofDict (row.map fun _ (n : Nat) => .int n)

def NamespaceDistribution.toJson (d : NamespaceDistribution) : Json :=
  .object [("columns", .array (d.columns.map .str)),
    ("nodes", .ofDict (d.nodes.map fun _ row => countsJson row))]

/-! ### Output -/

/-- How histograms are shown. -/
inductive Mode where
  | percentiles
  | byteDistribution (bucketCount : Nat) (builds : Dict String)

/-- What is shown of the histograms of one name. -/
inductive Output where
  | percentiles (rows : Dict (Dict Percentiles))
  | distribution (namespaces : Dict NamespaceDistribution)

/-- The distributions of all namespaces, as far as their histograms have buckets of equal width. -/
def distributionsOfBuckets (builds : Dict String) (bucketCount : Nat) (data : NodeHistograms) :
    Dict NamespaceDistribution :=
  (Keyed.flip data).map fun _ nodes => distributionOfBuckets (nodeBuckets builds nodes) bucketCount

/-- The distributions of all namespaces, as far as their histograms have named ranges. -/
def distributionsOfRanges (data : NodeHistograms) : Dict NamespaceDistribution :=
  (Keyed.flip data).map fun _ nodes => distributionOfRanges (nodeRanges nodes)

/-- What is shown of the histograms of one name; distributions need histograms of one form. -/
def output (name : String) (data : NodeHistograms) (mode : Mode) : Except HistogramError Output :=
  match mode with
  | .percentiles => .ok (.percentiles (percentilesByNamespace name data))
  | .byteDistribution bucketCount builds => do
    match ← format? data with
    | some .logarithmic => pure (.distribution (distributionsOfRanges data))
    | _ => pure (.distribution (distributionsOfBuckets builds bucketCount data))

def Output.toJson : Output → Json
  | percentiles rows => .ofDict (rows.map fun _ nodes => .ofDict (nodes.map fun _ p => p.toJson))
  | distribution namespaces => .ofDict (namespaces.map fun _ d => d.toJson)

end ClusterReport.Histogram
