/-
**The listing of stop-writes metrics.**

Every metric that was evaluated for stopping writes, one record per metric of a node.

Main definitions:

* `ClusterReport.Listing.StopWrites.declaration` — the sheet, of all metrics or of those that stop
  writes;
* `ClusterReport.Listing.StopWrites.sources` — its source, from the captured statistics.

Main results:

* `ClusterReport.Listing.StopWrites.expanded_declaration` — the metrics are expanded.
-/

import ClusterReport.Listing.Basic
import ClusterReport.StopWrites.Diagnosis

set_option relaxedAutoImplicit false
set_option autoImplicit false

namespace ClusterReport.Listing.StopWrites

open ClusterReport.StopWrites (Entry summary)
open Sheet (Column Declaration Record Sources)

def metrics : String := "stop_writes"

/-! ### The sheet -/

def columns : List Column := [
  { title := "Namespace", projector := .text metrics ["namespace"] },
  { title := "Set", projector := .text metrics ["set"] },
  { title := "Node", projector := .rowKey },
  { title := "Metric", projector := .text metrics ["metric"] },
  { title := "Usage", projector := .number metrics ["metric_usage"], align := .right },
  { title := "Threshold", projector := .number metrics ["metric_threshold"], align := .right },
  { title := "Config", projector := .text metrics ["config"] },
  { title := "Stop Writes", projector := .truth metrics ["stop_writes"], convert := yesNo
    highlights := [⟨.alert, isTrue⟩] }]

/-- Whether the metric of a record stops writes. -/
def isTriggered (r : Record) : Bool := r.cell "Stop Writes" = .value (.bool true)

/-- The sheet, of all metrics or of those that stop writes. -/
def declaration (triggered : Bool) : Declaration where
  fields := columns.map .column
  expanded := [metrics]
  keep := if triggered then some isTriggered else none
  orderKeys := ["Namespace", "Set", "Node", "Metric"]
  titleKeys := ["Node", "Metric"]

/-- The metrics are expanded. -/
@[simp] theorem expanded_declaration (triggered : Bool) :
    (declaration triggered).expanded = [metrics] := rfl

def title : String := "Stop Writes"

/-! ### The source -/

/-- The name of a metric within its node. -/
def entryName (e : Entry) : String :=
  e.namespaceName.getD "" ++ "/" ++ e.setName.getD "" ++ "/" ++ e.metric

/-- The metrics of a node by name. -/
def entriesJson (entries : List Entry) : Json :=
  .ofDict (.ofList (entries.map fun e => (entryName e, e.toJson)))

/-- The sources of the sheet. -/
def sources (stats : ClusterStats) : Sources :=
  .ofList [(metrics, plainCells entriesJson (summary stats))]

end ClusterReport.Listing.StopWrites
