/-
**The listings of histograms.**

The histogram of one namespace on every node, as the boundaries of its deciles or as object counts
per range of bytes.

Main definitions:

* `ClusterReport.Listing.Histograms.percentiles`,
  `ClusterReport.Listing.Histograms.distribution` — the two sheets;
* `ClusterReport.Listing.Histograms.percentileSources`,
  `ClusterReport.Listing.Histograms.distributionSources` — their sources.
-/

import ClusterReport.Histogram.Distribution
import ClusterReport.Json.Record
import ClusterReport.Listing.Basic

set_option relaxedAutoImplicit false
set_option autoImplicit false

namespace ClusterReport.Listing.Histograms

open ClusterReport.Histogram (NamespaceDistribution Percentiles countsJson)
open Sheet (Column Declaration Projector Sources)

def histogram : String := "histogram"

def nodeColumn : Column := { title := "Node", projector := .rowKey }

/-! ### Percentiles -/

def decileTitles : List String :=
  ["10%", "20%", "30%", "40%", "50%", "60%", "70%", "80%", "90%", "100%"]

/-- The boundary of a decile. -/
def decile (index : Nat) : Projector := fun row =>
  match row.get histogram with
  | .absent => .error .noEntry
  | .error cause => .error (.fault cause)
  | .value reported =>
    match reported.toDict?.bind fun fields => fields.get? "percentiles" with
    | some (.array boundaries) =>
      match boundaries[index]?.bind Json.int64? with
      | some boundary => .ok (.int boundary)
      | none => .error .noEntry
    | _ => .error .noEntry

def percentileColumns : List Column :=
  nodeColumn :: decileTitles.zipIdx.map fun (title, index) =>
    { title, projector := decile index, align := .right }

/-- The sheet of deciles. -/
def percentiles : Declaration where
  fields := percentileColumns.map .column
  titleKeys := ["Node"]

/-- The sources of the sheet of deciles. -/
def percentileSources (nodes : Dict Percentiles) : Sources :=
  .ofList [(histogram, plainCells Percentiles.toJson nodes)]

/-! ### Distributions -/

def rangeColumn (range : String) : Column :=
  { title := range, projector := .number histogram [range], align := .right
    aggregator := some ⟨.sum, none⟩ }

/-- The sheet of object counts per range. -/
def distribution (ranges : List String) : Declaration where
  fields := (nodeColumn :: ranges.map rangeColumn).map .column
  titleKeys := ["Node"]

/-- The sources of the sheet of object counts. -/
def distributionSources (d : NamespaceDistribution) : Sources :=
  .ofList [(histogram, plainCells countsJson d.nodes)]

end ClusterReport.Listing.Histograms
