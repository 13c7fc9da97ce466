/-
**The attributes that reports read.**

Each attribute is declared once with its name and every spelling it has had, the ones looked up
first in front.

Main definitions:

* one `ClusterReport.Attribute` for each figure, grouped by what it describes.
-/

import ClusterReport.Attribute.Basic

set_option relaxedAutoImplicit false
set_option autoImplicit false

namespace ClusterReport.Attribute

/-! ### Copies and objects -/

def effectiveReplicationFactor : Attribute :=
  ⟨"effective replication factor",
    ["effective_replication_factor", "replication-factor", "repl-factor"]⟩

def configuredReplicationFactor : Attribute :=
  ⟨"configured replication factor", ["repl-factor", "replication-factor"]⟩

def masterObjects : Attribute :=
  ⟨"master objects", ["master_objects", "master-objects"]⟩

def outgoingMigrations : Attribute :=
  ⟨"outgoing migrations remaining",
    ["migrate_tx_partitions_remaining", "migrate-tx-partitions-remaining"]⟩

/-! ### Storage -/

def storageEngine : Attribute :=
  ⟨"storage engine", ["storage-engine"]⟩

def deviceTotalBytes : Attribute :=
  ⟨"device total bytes", ["device_total_bytes", "total-bytes-disk"]⟩

def deviceUsedBytes : Attribute :=
  ⟨"device used bytes", ["device_used_bytes", "used-bytes-disk"]⟩

/-- What is used of the devices, in the present spelling only, for figures that old servers must
not contribute to. -/
def deviceUsedBytesCurrent : Attribute :=
  ⟨"device used bytes", ["device_used_bytes"]⟩

def deviceAvailPercent : Attribute :=
  ⟨"device available percent", ["device_available_pct", "available_pct"]⟩

def deviceCompressionRatio : Attribute :=
  ⟨"device compression ratio", ["device_compression_ratio"]⟩

def pmemTotalBytes : Attribute :=
  ⟨"pmem total bytes", ["pmem_total_bytes"]⟩

def pmemUsedBytes : Attribute :=
  ⟨"pmem used bytes", ["pmem_used_bytes"]⟩

def pmemAvailPercent : Attribute :=
  ⟨"pmem available percent", ["pmem_available_pct"]⟩

def pmemCompressionRatio : Attribute :=
  ⟨"pmem compression ratio", ["pmem_compression_ratio"]⟩

def compressionRatio : Attribute :=
  ⟨"compression ratio", ["device_compression_ratio", "pmem_compression_ratio"]⟩

def dataInMemory : Attribute :=
  ⟨"data in memory", ["storage-engine.data-in-memory", "data-in-memory"]⟩

def cacheReadPercent : Attribute :=
  ⟨"cache read percent", ["cache_read_pct", "cache-read-pct"]⟩

/-! ### Memory -/

def memorySize : Attribute :=
  ⟨"memory size", ["memory-size"]⟩

def memoryUsedBytes : Attribute :=
  ⟨"memory used bytes", ["memory_used_bytes"]⟩

def memoryUsedIndexBytes : Attribute :=
  ⟨"memory used index bytes", ["memory_used_index_bytes"]⟩

def memoryUsedDataBytes : Attribute :=
  ⟨"memory used data bytes", ["memory_used_data_bytes"]⟩

/-! ### Primary index -/

def indexType : Attribute :=
  ⟨"index type", ["index-type"]⟩

def indexMountsSizeLimit : Attribute :=
  ⟨"index mounts size limit", ["index-type.mounts-size-limit"]⟩

def indexPmemUsedBytes : Attribute :=
  ⟨"pmem index used bytes", ["index_pmem_used_bytes"]⟩

def indexFlashUsedBytes : Attribute :=
  ⟨"flash index used bytes", ["index_flash_used_bytes"]⟩

/-! ### Shape of the cluster -/

def rackId : Attribute :=
  ⟨"rack id", ["rack-id"]⟩

def clusterSize : Attribute :=
  ⟨"cluster size", ["cluster_size"]⟩

def osDescription : Attribute :=
  ⟨"os description", ["description"]⟩

end ClusterReport.Attribute
