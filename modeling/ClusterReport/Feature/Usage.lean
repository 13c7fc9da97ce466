/-
**Feature usage of a cluster.**

The features are looked for on every node that has service data, merged with its configurations,
or a failure in its place; a feature is in use in the cluster when some node uses it.

Main definitions:

* `ClusterReport.Feature.nodeData` — what the checks see of a node;
* `ClusterReport.Feature.usageByNode` — every feature of every node;
* `ClusterReport.Feature.usedInCluster` — the features in use somewhere.

Main results:

* `ClusterReport.Feature.get?_usageByNode` — a node's row is made from that node's data alone.
-/

import ClusterReport.Cluster
import ClusterReport.Feature.Registry

set_option relaxedAutoImplicit false
set_option autoImplicit false

namespace ClusterReport.Feature

/-- What the checks see of a node. -/
def nodeData (stats : ClusterStats) (node : String) : NodeData where
  service := stats.service.data? node
  security := stats.securityConfigs.data? node
  namespaces := stats.namespaces.data? node
  targets := stats.targetStats.data? node

/-- One feature of a node. -/
structure Usage where
  feature : String
  inUse : Bool
deriving DecidableEq

def usageOf (node : NodeData) : List Usage :=
  registry.map fun feature => ⟨feature.name, feature.inUse node⟩

/-- Every feature of every node that was asked for service data. -/
def usageByNode (stats : ClusterStats) : Dict (List Usage) :=
  stats.service.map fun node _ => usageOf (nodeData stats node)

/-- The features that at least one node uses, in the order of the registry. -/
def usedInCluster (stats : ClusterStats) : List String :=
  let nodes := stats.service.keys.map (nodeData stats)
  (registry.filter fun feature => nodes.any feature.inUse).map (·.name)

/-- Whether a row says that a feature is in use; a feature that is not known has no answer. -/
def find? (row : List Usage) (feature : String) : Option Bool :=
  (row.find? fun u => u.feature == feature).map (·.inUse)

/-- A node's row is made from that node's data alone. -/
theorem get?_usageByNode (stats : ClusterStats) (node : String) :
    (usageByNode stats).get? node =
      (stats.service.get? node).map fun _ => usageOf (nodeData stats node) :=
  Dict.get?_map _ _ _

end ClusterReport.Feature
