/-
**Rolling figures up.**

The summary starts out with a namespace for every one that some node answered for, and is filled in
step by step: the license figures, the namespaces that are migrating, what identifies the cluster,
and then the figures of one namespace after the other.  Each of these is read from the statistics
of the nodes, written into the summary of the namespace, and added to totals of which the cluster's
figures are made in the end.

Main definitions:

* `ClusterReport.NamespaceFigures` — what is read of one namespace;
* `ClusterReport.NamespaceFigures.fill` — the figures written into the summary of a namespace;
* `ClusterReport.ClusterTotals` — the figures added up over namespaces;
* `ClusterReport.Rollup`, `ClusterReport.Rollup.addNamespace` — a summary with the totals so far,
  and one more namespace added to it;
* `ClusterReport.Summary.rollUp` — everything but the license figures filled in;
* `ClusterReport.Summary.create` — the summary of everything that was captured.

Main results:

* `ClusterReport.Rollup.addNamespace_of_get?` — what one more namespace does.
-/

import ClusterReport.Feature.Usage
import ClusterReport.Fetched.Flip
import ClusterReport.License.Estimate
import ClusterReport.Summary.Basic
import ClusterReport.Text.Pieces

set_option relaxedAutoImplicit false
set_option autoImplicit false

universe u

namespace ClusterReport

/-! ### Readings over nodes -/

/-- The values without repetition, in increasing order. -/
def distinctInts (xs : List Int) : List Int := (xs.mergeSort (· ≤ ·)).eraseReps

/-- The texts without repetition, in increasing order. -/
def distinctTexts (xs : List String) : List String := (xs.mergeSort (· ≤ ·)).eraseReps

/-- A ratio of counts rounded to an integer, a half to the even neighbour. -/
def roundedRatio (numerator : Int) (denominator : Nat) : Int :=
  if denominator = 0 then 0
  else (Binary64.ofInt numerator / .ofNat denominator).roundEven.toInt64

def totalOf (a : Attribute) (nodes : NodeStats) : Int :=
  Integer.sum (Attribute.collect a.int? nodes 0).values

/-- The first usable node's value, in the order of nodes. -/
def firstValue {α : Type u} (read : Stats → Option α) (nodes : NodeStats) (default : α) : α :=
  (Attribute.collect read nodes default).values.head?.getD default

/-! ### Devices -/

/-- Whether a text is an index in brackets. -/
def isBracketedIndex (s : List Char) : Bool :=
  match s with
  | '[' :: rest =>
    rest.getLast? = some ']' && (Integer.natOf? rest.dropLast).isSome
  | _ => false

/-- Whether an attribute names devices or files that a namespace stores its data on. -/
def namesDevices (key : String) : Bool :=
  ["storage-engine.device", "storage-engine.file"].any (fun name =>
    key = name || (name.toList.isPrefixOf key.toList &&
      isBracketedIndex (key.toList.drop name.length)))
  || ["device", "file", "dev"].contains key

/-- The number of devices that a value names, separated by commas. -/
def devicesNamed : Json → Nat
  | .null => 0
  | .str "" => 0
  | .str s => (Text.pieces (· = ',') s.toList).length
  | j => (Text.pieces (· = ',') j.compact.toList).length

/-- The number of devices that a node stores data on. -/
def deviceCount (stats : Stats) : Int :=
  Integer.sum <|
    (stats.entries.filter fun e => namesDevices e.1).map fun e => (devicesNamed e.2 : Int)

/-! ### Namespaces -/

/-- What is read of one namespace, before figures are added up over namespaces. -/
structure NamespaceFigures where
  nodeCount : Nat
  devices : Dict Int
  memoryTotal : Int
  memoryUsed : Int
  indexType : IndexType
  pmemIndex : Option StorageUsage
  flashIndex : Option StorageUsage
  device : Option NodewiseStorage
  pmem : Option NodewiseStorage
  compressionRatio : Binary64
  copies : List Int
  cacheReadPercent : Option Int
  masterObjects : Int
  rackAware : Bool

/-- The usage of an index outside memory: its size is configured and its use reported. -/
def indexUsage? (configs : NodeStats) (nodes : NodeStats) (used : Attribute) :
    Option StorageUsage :=
  let size := totalOf .indexMountsSizeLimit configs
  if size ≤ 0 then none else some (.ofUsed size (totalOf used nodes))

/-- The mean share of reads answered by a cache, if every usable node reports it and the data is
kept in memory too. -/
def cacheReads? (nodes : NodeStats) : Option Int :=
  let shares := (Attribute.collectOption Attribute.cacheReadPercent.int? nodes).values
  if firstValue Attribute.dataInMemory.truth? nodes false && !shares.isEmpty then
    (shares.mapM id).map fun known => Integer.sum known / (known.length : Int)
  else none

def isMigrating (nodes : NodeStats) : Bool :=
  (Attribute.collect Attribute.outgoingMigrations.int? nodes 0).values.any (· ≠ 0)

def devicesDiffer (counts : Dict Int) : Bool := 1 < (distinctInts counts.values).length

namespace NamespaceFigures

/-- The figures of one namespace; `configs` is what was configured, without statistics. -/
def ofNodes (configs nodes : NodeStats) : NamespaceFigures :=
  let indexType := IndexType.ofConfig (firstValue Attribute.indexType.text? nodes "shmem")
  let engine := firstValue Attribute.storageEngine.text? nodes ""
  { nodeCount := nodes.size
    devices := (Keyed.usable nodes).map fun _ stats => deviceCount stats
    memoryTotal := totalOf .memorySize nodes
    memoryUsed := totalOf .memoryUsedBytes nodes
    indexType
    pmemIndex := if indexType = .pmem then indexUsage? configs nodes .indexPmemUsedBytes else none
    flashIndex :=
      if indexType = .flash then indexUsage? configs nodes .indexFlashUsedBytes else none
    device :=
      if engine = "device" then
        some (.ofNodes nodes .deviceTotalBytes .deviceUsedBytes .deviceAvailPercent)
      else none
    pmem :=
      if engine = "pmem" then
        some (.ofNodes nodes .pmemTotalBytes .pmemUsedBytes .pmemAvailPercent)
      else none
    compressionRatio :=
      (Attribute.collect Attribute.compressionRatio.number? nodes (.zero false)).values.foldl
        Binary64.max (.zero false)
    -- nodes without a readable figure count with the default, here and below
    copies :=
      distinctInts (Attribute.collect Attribute.configuredReplicationFactor.int? nodes 0).values
    cacheReadPercent := cacheReads? nodes
    masterObjects := totalOf .masterObjects nodes
    rackAware := (Attribute.collectOption Attribute.rackId.int? nodes).values.any fun id =>
      id.any (0 < ·) }

def deviceTotal (f : NamespaceFigures) : Int := Integer.sum f.devices.values

/-- The summary of a namespace with the figures filled in; what there is nothing of is left as it
was. -/
def fill (f : NamespaceFigures) (ns : NamespaceSummary) : NamespaceSummary :=
  { ns with
    devices := if 0 < f.deviceTotal then f.deviceTotal else ns.devices
    devicesPerNode :=
      if 0 < f.deviceTotal then roundedRatio f.deviceTotal f.nodeCount else ns.devicesPerNode
    sameDevicesAcrossNodes :=
      if 0 < f.deviceTotal && devicesDiffer f.devices then false else ns.sameDevicesAcrossNodes
    copies := f.copies
    masterObjects := if 0 < f.masterObjects then f.masterObjects else ns.masterObjects
    indexType := f.indexType
    memory := .ofUsed f.memoryTotal f.memoryUsed
    rackAware := f.rackAware
    compressionRatio :=
      if (Binary64.zero false).lt f.compressionRatio then some f.compressionRatio
      else ns.compressionRatio
    cacheReadPercent := f.cacheReadPercent.or ns.cacheReadPercent
    device := f.device.elim ns.device NodewiseStorage.usage?
    pmem := f.pmem.elim ns.pmem NodewiseStorage.usage?
    pmemIndex := if f.indexType = .pmem then f.pmemIndex else ns.pmemIndex
    flashIndex := if f.indexType = .flash then f.flashIndex else ns.flashIndex }

def count (f : NamespaceFigures) (c : ClusterSummary) : ClusterSummary :=
  { c with
    namespaceCount := c.namespaceCount + 1
    activeNamespaces :=
      if 0 < f.masterObjects then c.activeNamespaces + 1 else c.activeNamespaces }

end NamespaceFigures

/-! ### Totals over namespaces -/

/-- How much there is of a kind of storage over namespaces, and how much of it is available. -/
structure StorageTotal where
  total : Int := 0
  available : Int := 0
deriving DecidableEq

namespace StorageTotal

def add (t : StorageTotal) (u : StorageUsage) : StorageTotal where
  total := t.total + u.total
  available := t.available + u.available

/-- The usage over all namespaces, if there is anything to use. -/
def usage? (t : StorageTotal) : Option StorageUsage :=
  if 0 < t.total then some (.ofUsed t.total (t.total - t.available)) else none

end StorageTotal

/-- The figures added up over namespaces. -/
structure ClusterTotals where
  deviceCounts : Dict Int := .empty
  memory : StorageTotal := {}
  pmemIndex : StorageTotal := {}
  flashIndex : StorageTotal := {}
  device : NodewiseStorage := {}
  pmem : NodewiseStorage := {}

namespace ClusterTotals

def add (t : ClusterTotals) (f : NamespaceFigures) : ClusterTotals where
  deviceCounts := addCounts t.deviceCounts f.devices
  memory := t.memory.add (.ofUsed f.memoryTotal f.memoryUsed)
  pmemIndex := f.pmemIndex.elim t.pmemIndex t.pmemIndex.add
  flashIndex := f.flashIndex.elim t.flashIndex t.flashIndex.add
  device := f.device.elim t.device t.device.add
  pmem := f.pmem.elim t.pmem t.pmem.add

def devices (t : ClusterTotals) : Int := Integer.sum t.deviceCounts.values

/-- The summary of a cluster of some nodes with the totals filled in. -/
def fill (t : ClusterTotals) (nodeCount : Nat) (c : ClusterSummary) : ClusterSummary :=
  { c with
    devices := if 0 < t.devices then t.devices else c.devices
    devicesPerNode :=
      if 0 < t.devices then roundedRatio t.devices nodeCount else c.devicesPerNode
    sameDevicesAcrossNodes :=
      if 0 < t.devices && devicesDiffer t.deviceCounts then false else c.sameDevicesAcrossNodes
    memory := t.memory.usage?.getD c.memory
    device := t.device.usage?
    pmem := t.pmem.usage?
    pmemIndex := t.pmemIndex.usage?.or c.pmemIndex
    flashIndex := t.flashIndex.usage?.or c.flashIndex }

end ClusterTotals

/-! ### One namespace after the other -/

/-- A summary with the totals over the namespaces that have been added so far. -/
structure Rollup where
  summary : Summary
  totals : ClusterTotals := {}

namespace Rollup

/-- The figures of one more namespace filled in, counted and added up.  A namespace that no node
has anything on, or that is not listed, is passed over. -/
def addNamespace (configs : Dict NodeStats) (r : Rollup) (entry : String × NodeStats) : Rollup :=
  if entry.2.isEmpty then r
  else
    match r.summary.namespaces.get? entry.1 with
    | none => r
    | some ns =>
      let f := NamespaceFigures.ofNodes ((configs.get? entry.1).getD .empty) entry.2
      { summary :=
          { cluster := f.count r.summary.cluster
            namespaces := r.summary.namespaces.insert entry.1 (f.fill ns) }
        totals := r.totals.add f }

/-- What one more namespace does that is listed and has nodes. -/
theorem addNamespace_of_get? (configs : Dict NodeStats) (r : Rollup) {name : String}
    {nodes : NodeStats} {ns : NamespaceSummary} (hnodes : nodes.isEmpty = false)
    (hns : r.summary.namespaces.get? name = some ns) :
    r.addNamespace configs (name, nodes) =
      let f := NamespaceFigures.ofNodes ((configs.get? name).getD .empty) nodes
      { summary :=
          { cluster := f.count r.summary.cluster
            namespaces := r.summary.namespaces.insert name (f.fill ns) }
        totals := r.totals.add f } := by
  simp [addNamespace, hnodes, hns]

/-- The summary with the totals filled in for a cluster of some nodes. -/
def close (nodeCount : Nat) (r : Rollup) : Summary :=
  { r.summary with cluster := r.totals.fill nodeCount r.summary.cluster }

end Rollup

namespace Summary

/-- The license figures filled in, as far as they can be computed. -/
def fillLicenses (builds : Dict String) (nodes : Dict NodeStats) (agent : Option Json)
    (allowUnstable : Bool) (s : Summary) : Summary :=
  (Licenses.fill builds nodes agent allowUnstable).after s

/-- One more namespace marked as migrating, if it is, and with it the cluster. -/
def markMigration (s : Summary) (entry : String × NodeStats) : Summary :=
  if isMigrating entry.2 then
    { cluster := { s.cluster with migrating := true }
      namespaces := s.namespaces.map fun name ns =>
        if name = entry.1 then { ns with migrating := true } else ns }
  else s

/-- What identifies a cluster filled in. -/
def identify (stats : ClusterStats) (metadata : ClusterMetadata) (s : Summary) : Summary :=
  { s with
    cluster := { s.cluster with
      activeFeatures := Feature.usedInCluster stats
      -- a node that does not know the size reports nothing, and counts as zero
      sizes :=
        distinctInts (Attribute.collect Attribute.clusterSize.int? stats.serviceStats 0).values
      names := distinctTexts (metadata.clusterNames.values.filter (· ≠ "null"))
      serverVersions := distinctTexts metadata.versions.values
      systems :=
        distinctTexts
          (Attribute.collect Attribute.osDescription.text? metadata.systems "").values } }

/-- The figures of all namespaces filled in and added up, by namespace and node. -/
def addNamespaces (configs nodes : Dict NodeStats) (nodeCount : Nat) (s : Summary) : Summary :=
  (nodes.entries.foldl (Rollup.addNamespace configs) { summary := s }).close nodeCount

/-- Everything but the license figures filled in. -/
def rollUp (stats : ClusterStats) (metadata : ClusterMetadata) (s : Summary) : Summary :=
  let nodes := Keyed.flip stats.namespaces
  let marked := nodes.entries.foldl markMigration s
  (marked.identify stats metadata).addNamespaces (Keyed.flip stats.namespaceConfigs) nodes
    stats.serviceStats.size

/-- The summary of everything that was captured of a cluster. -/
def create (stats : ClusterStats) (metadata : ClusterMetadata) (agent : Option Json)
    (allowUnstable : Bool) : Summary :=
  let nodes := Keyed.flip stats.namespaces
  ((unknown nodes.keys).fillLicenses metadata.builds nodes agent allowUnstable).rollUp stats
    metadata

end Summary
end ClusterReport
