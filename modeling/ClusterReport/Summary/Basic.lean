/-
**Summaries.**

A summary shows a cluster and each of its namespaces at one glance: what runs there, how much
storage and memory is used, and how much of the license.

Main definitions:

* `ClusterReport.IndexType` — where a namespace keeps its primary index;
* `ClusterReport.ClusterSummary`, `ClusterReport.NamespaceSummary`, `ClusterReport.Summary`;
* `ClusterReport.Summary.unknown` — the summary of a cluster of which nothing is known yet;
* `ClusterReport.Summary.toJson` — its document.
-/

import ClusterReport.License.Usage
import ClusterReport.Summary.Storage

set_option relaxedAutoImplicit false
set_option autoImplicit false

namespace ClusterReport

/-- Where a namespace keeps its primary index. -/
inductive IndexType where
  | shmem
  | pmem
  | flash
deriving DecidableEq

/-- The configured word for a kind of index; other words mean shared memory. -/
def IndexType.ofConfig (word : String) : IndexType :=
  if word = "pmem" then pmem else if word = "flash" then flash else shmem

def IndexType.word : IndexType → String
  | shmem => "shmem"
  | pmem => "pmem"
  | flash => "flash"

/-- A cluster at one glance. -/
structure ClusterSummary where
  serverVersions : List String := []
  systems : List String := []
  sizes : List Int := []
  names : List String := []
  devices : Int := 0
  devicesPerNode : Int := 0
  sameDevicesAcrossNodes : Bool := true
  activeFeatures : List String := []
  migrating : Bool := false
  activeNamespaces : Nat := 0
  namespaceCount : Nat := 0
  license : LicenseUsage := {}
  memory : StorageUsage := {}
  device : Option StorageUsage := none
  pmem : Option StorageUsage := none
  pmemIndex : Option StorageUsage := none
  flashIndex : Option StorageUsage := none
deriving DecidableEq

/-- A namespace at one glance. -/
structure NamespaceSummary where
  devices : Int := 0
  devicesPerNode : Int := 0
  sameDevicesAcrossNodes : Bool := true
  copies : List Int := []
  masterObjects : Int := 0
  migrating : Bool := false
  indexType : IndexType := .shmem
  memory : StorageUsage := {}
  rackAware : Bool := false
  license : LicenseUsage := {}
  compressionRatio : Option Binary64 := none
  cacheReadPercent : Option Int := none
  device : Option StorageUsage := none
  pmem : Option StorageUsage := none
  pmemIndex : Option StorageUsage := none
  flashIndex : Option StorageUsage := none
deriving DecidableEq

/-- A cluster and its namespaces at one glance. -/
structure Summary where
  cluster : ClusterSummary := {}
  namespaces : Dict NamespaceSummary := .empty
deriving DecidableEq

namespace Summary

/-- Nothing known yet of a cluster with these namespaces. -/
def unknown (names : List String) : Summary where
  namespaces := .ofList (names.map fun name => (name, {}))

end Summary

/-! ### Documents -/

/-- A field that is left out when there is nothing to say. -/
def optionalField (name : String) (value : Option Json) : List (String × Json) :=
  (value.map fun v => (name, v)).toList

/-- The document of a cluster's summary. -/
def ClusterSummary.toJson (c : ClusterSummary) : Json :=
  let texts (xs : List String) : Json := .array (xs.map .str)
  let storage (name : String) (u : Option StorageUsage) :=
    optionalField name (u.map StorageUsage.toJson)
  .object ([
    ("server_version", texts c.serverVersions), ("os_version", texts c.systems),
    ("cluster_size", .array (c.sizes.map .int)), ("cluster_name", texts c.names),
    ("device_count", .int c.devices), ("device_count_per_node", .int c.devicesPerNode),
    ("device_count_same_across_nodes", .bool c.sameDevicesAcrossNodes),
    ("active_features", texts c.activeFeatures), ("migrations_in_progress", .bool c.migrating),
    ("active_ns", .int c.activeNamespaces), ("ns_count", .int c.namespaceCount),
    ("license_data", c.license.toJson), ("memory", c.memory.toJson)]
    ++ storage "device" c.device ++ storage "pmem" c.pmem
    ++ storage "pmem_index" c.pmemIndex ++ storage "flash_index" c.flashIndex)

/-- The document of a namespace's summary. -/
def NamespaceSummary.toJson (n : NamespaceSummary) : Json :=
  let storage (name : String) (u : Option StorageUsage) :=
    optionalField name (u.map StorageUsage.toJson)
  .object ([
    ("devices_total", .int n.devices), ("devices_per_node", .int n.devicesPerNode),
    ("device_count_same_across_nodes", .bool n.sameDevicesAcrossNodes),
    ("repl_factor", .array (n.copies.map .int)), ("master_objects", .int n.masterObjects),
    ("migrations_in_progress", .bool n.migrating), ("index_type", .str n.indexType.word),
    ("memory", n.memory.toJson), ("rack_aware", .bool n.rackAware),
    ("license_data", n.license.toJson)]
    ++ optionalField "compression_ratio" (n.compressionRatio.map .float)
    ++ optionalField "cache_read_pct" (n.cacheReadPercent.map .int)
    ++ storage "device" n.device ++ storage "pmem" n.pmem
    ++ storage "pmem_index" n.pmemIndex ++ storage "flash_index" n.flashIndex)

/-- The document of a summary. -/
def Summary.toJson (s : Summary) : Json :=
  .object [("CLUSTER", s.cluster.toJson),
    ("NAMESPACES", .ofDict (s.namespaces.map fun _ n => n.toJson))]

end ClusterReport
