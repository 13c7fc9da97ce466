/-
**Snapshots.**

A snapshot is one document with everything that was captured of a cluster: its statistics, the
facts that identify its nodes, the texts of its histograms, and what the usage agent answered.

Main definitions:

* `ClusterReport.Snapshot` — the captured data;
* `ClusterReport.Snapshot.ofJson?`, `ClusterReport.Snapshot.ofText?` — reading a document;
* `ClusterReport.Snapshot.histograms?` — the histograms of one name, node by node.

Main results:

* `ClusterReport.Snapshot.readNode_failed` — a node that failed stays failed, with its cause.
-/

import ClusterReport.Cluster
import ClusterReport.Histogram.Wire
import ClusterReport.Json.Reading
import ClusterReport.ReleaseGate

set_option relaxedAutoImplicit false
set_option autoImplicit false

namespace ClusterReport

/-- Texts by node and namespace. -/
abbrev NodeTexts := Keyed (Keyed String)

/-- Everything that was captured of a cluster. -/
structure Snapshot where
  stats : ClusterStats := {}
  metadata : ClusterMetadata := {}
  histogramTexts : Dict NodeTexts := .empty
  agentResponse : Option Json := none

namespace Snapshot

/-- What of a document a snapshot is read from. -/
def outline : Json.Outline :=
  .record [("stats", ClusterStats.outline), ("metadata", ClusterMetadata.outline),
    ("histograms", .whole), ("agent_response", .whole)]

/-- The snapshot that a document holds. -/
def ofJson? (j : Json) : Option Snapshot := do
  let fields ← j.record? outline.names
  let texts := Json.dict? (Keyed.ofJson? (Keyed.ofJson? Json.text?))
  pure
    { stats := ← Json.defaulted? "stats" {} ClusterStats.ofJson? fields
      metadata := ← Json.defaulted? "metadata" {} ClusterMetadata.ofJson? fields
      histogramTexts := ← Json.defaulted? "histograms" .empty texts fields
      agentResponse := ← Json.defaulted? "agent_response" none
        (Json.nullable? fun j => some j.canonical) fields }

/-- The snapshot that a text holds. -/
def ofText? (text : String) : Option Snapshot := (Json.ofText? text outline).bind ofJson?

/-! ### Histograms -/

/-- The histogram of one text: a malformed text is a failure, and a text that stands for no
histogram leaves nothing. -/
def readText (name : String) (ranges newFormat : Bool) : Fetched String → Option (Fetched Histogram)
  | .failed cause => some (.failed cause)
  | .data text =>
    match Histogram.parse name text.toList ranges newFormat with
    | .ok h => h.map .data
    | .error e => some (.failed e.message)

/-- The histograms of one node, whose build decides in which format its texts are. -/
def readNode (name : String) (ranges : Bool) (build : Option String) :
    Fetched (Keyed String) → Fetched (Keyed Histogram)
  | .failed cause => .failed cause
  | .data namespaces =>
    .data (namespaces.filterMap fun _ => readText name ranges (ReleaseGate.hasNewHistograms build))

/-- A node that failed stays failed, with its cause. -/
@[simp] theorem readNode_failed (name : String) (ranges : Bool) (build : Option String)
    (cause : String) : readNode name ranges build (.failed cause) = .failed cause := rfl

/-- The histograms of one name, if the snapshot has any of it. -/
def histograms? (s : Snapshot) (name : String) (ranges : Bool) : Option NodeHistograms :=
  (s.histogramTexts.get? name).map fun texts =>
    texts.map fun node entry => readNode name ranges (s.metadata.builds.get? node) entry

end Snapshot
end ClusterReport
