/-
**What is known of a cluster.**

Everything that was collected from one cluster, by node: statistics and configurations of the
nodes, their namespaces and sets, and a few facts that identify the nodes.  Any node may be missing
from any map, and any entry may be a failure.  Statistics are read with the configurations merged
over them.

Main definitions:

* `ClusterReport.ClusterStats` — the statistics and configurations;
* `ClusterReport.ClusterStats.service`, `namespaces`, `sets` — the merged views;
* `ClusterReport.ClusterMetadata` — the identifying facts.
-/

import ClusterReport.Fetched.Merge
import ClusterReport.Json.Record

set_option relaxedAutoImplicit false
set_option autoImplicit false

namespace ClusterReport

/-- Statistics and configurations of one cluster. -/
structure ClusterStats where
  serviceStats : NodeStats := .empty
  serviceConfigs : NodeStats := .empty
  securityConfigs : NodeStats := .empty
  namespaceStats : NamespaceStats := .empty
  namespaceConfigs : NamespaceStats := .empty
  setStats : SetStats := .empty
  setConfigs : SetStats := .empty
  targetStats : NamespaceStats := .empty

namespace ClusterStats

/-- The statistics of the nodes, with their configurations. -/
def service (s : ClusterStats) : NodeStats := s.serviceStats.merge s.serviceConfigs

/-- The statistics of the namespaces, with their configurations. -/
def namespaces (s : ClusterStats) : NamespaceStats := s.namespaceStats.merge s.namespaceConfigs

/-- The statistics of the sets, with their configurations. -/
def sets (s : ClusterStats) : SetStats := s.setStats.merge s.setConfigs

/-- What of a document the statistics are read from. -/
def outline : Json.Outline :=
  .ofNames ["service_stats", "service_configs", "security_configs", "namespace_stats",
    "namespace_configs", "set_stats", "set_configs", "xdr_dc_stats"]

def ofJson? (j : Json) : Option ClusterStats := do
  let fields ← j.record? outline.names
  let nodes (name : String) := Json.defaulted? name .empty NodeStats.ofJson? fields
  let namespaces (name : String) := Json.defaulted? name .empty NamespaceStats.ofJson? fields
  let sets (name : String) := Json.defaulted? name .empty SetStats.ofJson? fields
  pure
    { serviceStats := ← nodes "service_stats"
      serviceConfigs := ← nodes "service_configs"
      securityConfigs := ← nodes "security_configs"
      namespaceStats := ← namespaces "namespace_stats"
      namespaceConfigs := ← namespaces "namespace_configs"
      setStats := ← sets "set_stats"
      setConfigs := ← sets "set_configs"
      targetStats := ← namespaces "xdr_dc_stats" }

end ClusterStats

/-- Facts that identify the nodes of a cluster. -/
structure ClusterMetadata where
  builds : Dict String := .empty
  versions : Dict String := .empty
  clusterNames : Dict String := .empty
  systems : NodeStats := .empty

/-- What of a document the facts are read from. -/
def ClusterMetadata.outline : Json.Outline :=
  .ofNames ["server_build", "server_version", "cluster_name", "os_version"]

def ClusterMetadata.ofJson? (j : Json) : Option ClusterMetadata := do
  let fields ← j.record? outline.names
  let texts (name : String) := Json.defaulted? name .empty (Json.dict? Json.text?) fields
  pure
    { builds := ← texts "server_build"
      versions := ← texts "server_version"
      clusterNames := ← texts "cluster_name"
      systems := ← Json.defaulted? "os_version" .empty NodeStats.ofJson? fields }

end ClusterReport
