/-
**Features of the cluster and of its nodes.**

The features of the cluster and those of its nodes are found by two walks over the registry, which
agree: the cluster uses the features that some row of a node says are in use.  A row is found by the
name of a feature, and names are distinct, so that a row says of each feature whether its own checks
pass.  And what a row says comes from the entries of its node alone.

Main definitions:

* `ClusterReport.Feature.isUsedSomewhere` — whether some row says that a feature is in use;
* `ClusterReport.ClusterStats.AgreeAt` — that two clusters have the same entries for a node;
* `ClusterReport.Feature.IsUsage` — what is true of the features of a cluster and its nodes.

Main results:

* `ClusterReport.Feature.find?_usageOf` — a row says of each feature whether it is in use;
* `ClusterReport.Feature.usedInCluster_eq` — the cluster uses what some node uses;
* `ClusterReport.ClusterStats.AgreeAt.get?_usageByNode` — a row comes from the entries of its node;
* `ClusterReport.Feature.isUsage_usageByNode` — **both walks agree, and the rows are local**.
-/

import ClusterReport.Feature.Usage
import ClusterReport.Proofs.Fetched.Merge
import Mathlib.Data.List.Nodup

set_option relaxedAutoImplicit false
set_option autoImplicit false

namespace ClusterReport

namespace Feature

/-! ### Rows -/

theorem nodup_names_registry : (registry.map (·.name)).Nodup := by decide

theorem find?_row {features : List Feature} (hnames : (features.map (·.name)).Nodup)
    {f : Feature} (hf : f ∈ features) (node : NodeData) :
    find? (features.map fun f => ⟨f.name, f.inUse node⟩) f.name = some (f.inUse node) := by
  induction features with
  | nil => cases hf
  | cons first rest ih =>
      obtain ⟨hfirst, hrest⟩ := List.nodup_cons.1 hnames
      rw [find?, List.map_cons, List.find?_cons]
      rcases List.mem_cons.1 hf with rfl | hf
      · rw [beq_self_eq_true]
        rfl
      · have hne : first.name ≠ f.name :=
          fun heq => hfirst (List.mem_map.2 ⟨f, hf, heq.symm⟩)
        rw [beq_eq_false_iff_ne.2 hne]
        exact ih hrest hf

/-- A row says of each feature whether it is in use. -/
theorem find?_usageOf {f : Feature} (hf : f ∈ registry) (node : NodeData) :
    find? (usageOf node) f.name = some (f.inUse node) :=
  find?_row nodup_names_registry hf node

/-! ### The cluster -/

/-- Whether the row of some node says that a feature is in use. -/
def isUsedSomewhere (stats : ClusterStats) (feature : String) : Bool :=
  (usageByNode stats).values.any fun row => find? row feature = some true

theorem isUsedSomewhere_name (stats : ClusterStats) {f : Feature} (hf : f ∈ registry) :
    isUsedSomewhere stats f.name = (stats.service.keys.map (nodeData stats)).any f.inUse := by
  have hrows : (usageByNode stats).values =
      (stats.service.keys.map (nodeData stats)).map usageOf := by
    simp only [usageByNode, Dict.values, Dict.map, Dict.keys, List.map_map]
    rfl
  rw [isUsedSomewhere, hrows, List.any_map]
  refine congrArg (List.any _) (funext fun node => ?_)
  rw [Function.comp_apply, find?_usageOf hf]
  cases f.inUse node <;> rfl

/-- **The cluster uses what some node uses**, in the order of the registry. -/
theorem usedInCluster_eq (stats : ClusterStats) :
    usedInCluster stats = (registry.map (·.name)).filter (isUsedSomewhere stats) := by
  rw [List.filter_map, usedInCluster]
  refine congrArg (List.map _) (List.filter_congr fun f hf => ?_)
  exact (isUsedSomewhere_name stats hf).symm

end Feature

/-! ### Locality -/

namespace ClusterStats

/-- Two clusters have the same entries for a node, as far as features are looked for in them. -/
structure AgreeAt (node : String) (stats other : ClusterStats) : Prop where
  serviceStats : other.serviceStats.get? node = stats.serviceStats.get? node
  serviceConfigs : other.serviceConfigs.get? node = stats.serviceConfigs.get? node
  securityConfigs : other.securityConfigs.get? node = stats.securityConfigs.get? node
  namespaceStats : other.namespaceStats.get? node = stats.namespaceStats.get? node
  namespaceConfigs : other.namespaceConfigs.get? node = stats.namespaceConfigs.get? node
  targetStats : other.targetStats.get? node = stats.targetStats.get? node

namespace AgreeAt

variable {node : String} {stats other : ClusterStats}

theorem get?_service (h : AgreeAt node stats other) :
    other.service.get? node = stats.service.get? node := by
  rw [service, NodeStats.merge, Keyed.get?_merge, h.serviceStats, h.serviceConfigs]
  exact (Keyed.get?_merge _ _ _ _).symm

theorem get?_namespaces (h : AgreeAt node stats other) :
    other.namespaces.get? node = stats.namespaces.get? node := by
  rw [namespaces, NamespaceStats.merge, Keyed.get?_merge, h.namespaceStats, h.namespaceConfigs]
  exact (Keyed.get?_merge _ _ _ _).symm

/-- The checks see the same of the node. -/
theorem nodeData_eq (h : AgreeAt node stats other) :
    Feature.nodeData other node = Feature.nodeData stats node := by
  simp only [Feature.nodeData, Keyed.data?, h.get?_service, h.get?_namespaces, h.securityConfigs,
    h.targetStats]

/-- **The row of a node comes from the entries of the node.** -/
theorem get?_usageByNode (h : AgreeAt node stats other) :
    (Feature.usageByNode other).get? node = (Feature.usageByNode stats).get? node := by
  rw [Feature.get?_usageByNode, Feature.get?_usageByNode, h.get?_service, h.nodeData_eq]

end AgreeAt
end ClusterStats

/-! ### Both walks -/

namespace Feature

/-- What is true of the features of a cluster and of its nodes: the cluster uses, each once and in
the order of the registry, the features that some node uses, and the row of a node is the same in
all clusters that have the same entries for the node. -/
structure IsUsage (stats : ClusterStats) : Prop where
  cluster : usedInCluster stats = (registry.map (·.name)).filter (isUsedSomewhere stats)
  distinct : (usedInCluster stats).Nodup
  rows : ∀ node other, ClusterStats.AgreeAt node stats other →
    (usageByNode other).get? node = (usageByNode stats).get? node

/-- **Both walks agree, and the rows are local.** -/
theorem isUsage_usageByNode (stats : ClusterStats) : IsUsage stats where
  cluster := usedInCluster_eq stats
  distinct := usedInCluster_eq stats ▸ nodup_names_registry.filter _
  rows _ _ h := h.get?_usageByNode

end Feature
end ClusterReport
