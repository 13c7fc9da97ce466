/-
**Reports on a snapshot.**

Each command that reports on a cluster makes its report from the snapshot alone.

Main definitions:

* `ClusterReport.Report.summary`, `features`, `stopWrites`, `histogram`, `namespaces` — the reports.
-/

import ClusterReport.Listing.Features
import ClusterReport.Listing.Histograms
import ClusterReport.Listing.Namespaces
import ClusterReport.Listing.StopWrites
import ClusterReport.Report.Form
import ClusterReport.Snapshot
import ClusterReport.Summary.Rollup
import ClusterReport.Summary.View

set_option relaxedAutoImplicit false
set_option autoImplicit false

namespace ClusterReport.Report

/-! ### Listings -/

/-- The summary of the cluster. -/
def summary (f : Form) (s : Snapshot) (allowUnstable : Bool) : String :=
  let summary := Summary.create s.stats s.metadata s.agentResponse
    (allowUnstable || f.settings.allowUnstable)
  match f.format with
  | .json => printJson summary.toJson
  | .plain => summary.viewText f.color

/-- The listing of features. -/
def features (f : Form) (s : Snapshot) : Except String String :=
  open Listing.Features in printSheet f declaration title none (sources s.stats)

/-- The listing of stop-writes metrics. -/
def stopWrites (f : Form) (s : Snapshot) (triggered : Bool) : Except String String :=
  open Listing.StopWrites in printSheet f (declaration triggered) title none (sources s.stats)

/-- The listing of namespaces. -/
def namespaces (f : Form) (s : Snapshot) (only : Option String) : Except String String :=
  open Listing.Namespaces in
  printSheet f (declaration only) title none (sources s.stats s.metadata)

/-! ### Histograms -/

def percentilesText (name : String) (p : Histogram.Percentiles) : String :=
  "Percentage of records having " ++ name
    ++ " less than or equal to value measured in buckets of width " ++ toString p.histogram.width

def percentiles (f : Form) (name namespaceName : String) (nodes : Dict Histogram.Percentiles) :
    Except String String :=
  printSheet f Listing.Histograms.percentiles (namespaceName ++ " - " ++ name ++ " in Percentiles")
    (nodes.values.head?.map (percentilesText name)) (Listing.Histograms.percentileSources nodes)

def distribution (f : Form) (name namespaceName : String) (d : Histogram.NamespaceDistribution) :
    Except String String :=
  printSheet f (Listing.Histograms.distribution d.columns)
    (namespaceName ++ " - " ++ name ++ " Distribution in Bytes")
    (some "Number of records per size range") (Listing.Histograms.distributionSources d)

def histogramOf (f : Form) (name : String) : Histogram.Output → Except String String
  | .percentiles rows =>
    (rows.entries.mapM fun e => percentiles f name e.1 e.2).map String.join
  | .distribution namespaces =>
    (namespaces.entries.mapM fun e => distribution f name e.1 e.2).map String.join

/-- The histogram of one name, as deciles or as distribution. -/
def histogram (f : Form) (s : Snapshot) (name : String) (byteDistribution : Bool)
    (bucketCount : Option Nat) (logarithmic : Bool) : Except String String :=
  match s.histograms? name logarithmic with
  | none => .error ("histogram " ++ name ++ " is not in the snapshot")
  | some data =>
    let mode : Histogram.Mode :=
      if byteDistribution then
        .byteDistribution (bucketCount.getD f.settings.bucketCount) s.metadata.builds
      else .percentiles
    match Histogram.output name data mode with
    | .error e => .error e.message
    | .ok output =>
      match f.format with
      | .json => .ok (printJson output.toJson)
      | .plain => histogramOf f name output

end ClusterReport.Report
