/-
**Diagnosis of stopped writes.**

Every metric that can stop writes is evaluated wherever a node reports what the evaluation needs,
not only where it has reached its threshold.  Clock skew and system memory are reported by the node
and evaluated for each of its namespaces; storage and memory are reported by namespace; sets have
limits of their own and no flag.

Main definitions:

* `ClusterReport.StopWrites.clockMetric?`, `memoryMetric?`, `availabilityMetric?`, `storageMetric?`,
  `namespaceMemoryMetric?`, `setSizeMetric?`, `setCountMetric?` — the metrics;
* `ClusterReport.StopWrites.entriesOfNode` — everything that is evaluated for a node;
* `ClusterReport.StopWrites.summary` — the entries of every node.
-/

import ClusterReport.Cluster
import ClusterReport.StopWrites.Entry

set_option relaxedAutoImplicit false
set_option autoImplicit false

namespace ClusterReport

def Stats.int? (stats : Stats) (key : String) : Option Int := (stats.get? key).bind Json.toInt?

def Stats.text? (stats : Stats) (key : String) : Option String := (stats.get? key).bind Json.toText?

/-- Whether an attribute is there and not null. -/
def Stats.reports (stats : Stats) (key : String) : Bool :=
  match stats.get? key with
  | none => false
  | some .null => false
  | some _ => true

namespace StopWrites

/-! ### Metrics of the node -/

/-- The clock skew in milliseconds that namespaces which expire records tolerate when they are
not strongly consistent. -/
def expiringClockSkew : Int := 40000

/-- The clock skew that a namespace tolerates. -/
def clockThreshold (stats : Stats) (seconds : Int) : Int :=
  if stats.text? "strong-consistency" = some "false" &&
      (stats.text? "nsup-period").any (fun period => period != "0") then expiringClockSkew
  else Integer.wrapInt64 (seconds * 1000)

/-- The skew of the cluster's clocks, evaluated for a namespace. -/
def clockMetric? (service : Stats) (name : String) (stats : Stats) : Option Entry := do
  let usage ← service.int? "cluster_clock_skew_ms"
  let seconds ← service.int? "cluster_clock_skew_stop_writes_sec"
  let flag ← stats.text? "clock_skew_stop_writes"
  pure (.evaluate "cluster_clock_skew_ms" usage (.whole (clockThreshold stats seconds)) (some flag)
    none name none)

/-- The system memory in use, evaluated for a namespace. -/
def memoryMetric? (service : Stats) (name : String) (stats : Stats) : Option Entry := do
  let config := "stop-writes-sys-memory-pct"
  let threshold ← stats.int? config
  let free ← service.int? "system_free_mem_pct"
  let flag ← stats.text? "stop_writes"
  pure (.evaluate "system_free_mem_pct" (Integer.wrapInt64 (100 - free)) (.whole threshold)
    (some flag) (some config) name none)

/-! ### Metrics of a namespace -/

/-- The share of the storage that can still be written to. -/
def availabilityMetric? (name : String) (stats : Stats) : Option Entry := do
  let flag ← stats.text? "stop_writes"
  let config := "min-avail-pct"
  -- a figure of devices goes before one of persistent memory
  let metric := if stats.reports "device_avail_pct" then "device_avail_pct" else "pmem_avail_pct"
  let usage ← stats.int? metric
  let threshold ← stats.int? config
  pure (.evaluate metric usage (.whole threshold) (some flag) (some config) name none)

/-- What is used of the storage. -/
def storageMetric? (name : String) (stats : Stats) : Option Entry := do
  let flag ← stats.text? "stop_writes"
  let config := "max-used-pct"
  let (metric, total) :=
    if stats.reports "device_used_bytes" then ("device_used_bytes", "device_total_bytes")
    else ("pmem_used_bytes", "pmem_total_bytes")
  let usage ← stats.int? metric
  let percentage ← stats.int? config
  let total ← stats.int? total
  pure (.evaluate metric usage (.ofPercentage total percentage) (some flag) (some config) name none)

/-- What is used of the memory. -/
def namespaceMemoryMetric? (name : String) (stats : Stats) : Option Entry := do
  let flag ← stats.text? "stop_writes"
  let config := "stop-writes-pct"
  let usage ← stats.int? "memory_used_bytes"
  let percentage ← stats.int? config
  let total ← stats.int? "memory-size"
  pure (.evaluate "memory_used_bytes" usage (.ofPercentage total percentage) (some flag)
    (some config) name none)

/-! ### Metrics of a set -/

/-- The size of a set, in memory or else on devices. -/
def setSizeMetric? (name set : String) (stats : Stats) : Option Entry := do
  let config := "stop-writes-size"
  let (metric, usage) :=
    -- a set without data in memory is measured by what it has on devices
    match (stats.int? "memory_data_bytes").filter (· ≠ 0) with
    | some bytes => ("memory_data_bytes", some bytes)
    | none => ("device_data_bytes", stats.int? "device_data_bytes")
  let usage ← usage
  let threshold ← stats.int? config
  pure (.evaluate metric usage (.whole threshold) none (some config) name (some set))

/-- The number of objects in a set. -/
def setCountMetric? (name set : String) (stats : Stats) : Option Entry := do
  let config :=
    if stats.reports "stop-writes-count" then "stop-writes-count" else "set-stop-writes-count"
  let usage ← stats.int? "objects"
  let threshold ← stats.int? config
  pure (.evaluate "objects" usage (.whole threshold) none (some config) name (some set))

/-! ### Nodes and clusters -/

/-- The metrics of the node that are evaluated for a namespace; a node without data has none. -/
def serviceEntries (service : Option Stats) (name : String) (stats : Stats) : List Entry :=
  match service with
  | some service =>
    (clockMetric? service name stats).toList ++ (memoryMetric? service name stats).toList
  | none => []

def namespaceEntries (name : String) (stats : Stats) : List Entry :=
  (availabilityMetric? name stats).toList ++ (storageMetric? name stats).toList
    ++ (namespaceMemoryMetric? name stats).toList

def setEntries (name set : String) (stats : Stats) : List Entry :=
  (setSizeMetric? name set stats).toList ++ (setCountMetric? name set stats).toList

def evaluated (stats : ClusterStats) (node : String) : List Entry :=
  let service := stats.serviceStats.data? node
  let namespaces := ((stats.namespaces.data? node).getD .empty).fetched.entries
  let sets := ((stats.sets.data? node).getD .empty).fetched.entries
  namespaces.flatMap (fun ns => serviceEntries service ns.1 ns.2)
    ++ namespaces.flatMap (fun ns => namespaceEntries ns.1 ns.2)
    ++ sets.flatMap fun ns => ns.2.fetched.entries.flatMap fun set => setEntries ns.1 set.1 set.2

/-- The entries of a node. -/
def entriesOfNode (stats : ClusterStats) (node : String) : List Entry :=
  collect (evaluated stats node)

def nodes (stats : ClusterStats) : List String :=
  stats.serviceStats.keys ++ stats.namespaceStats.keys ++ stats.namespaceConfigs.keys
    ++ stats.setStats.keys ++ stats.setConfigs.keys

/-- The entries of every node. -/
def summary (stats : ClusterStats) : Dict (List Entry) :=
  .ofList ((nodes stats).map fun node => (node, entriesOfNode stats node))

end StopWrites
end ClusterReport
