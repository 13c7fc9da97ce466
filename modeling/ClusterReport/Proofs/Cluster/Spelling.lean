/-
**Diagnosis does not depend on the spelling.**

The features of a cluster and the diagnosis of its stopped writes are found by reading attributes as
integers and as texts, by asking whether they are there, and by merging statistics with
configurations.  None of this tells an integer from its decimal text, so that a cluster captured
with numbers, with texts or with any mixture of the two gets the same diagnosis.  Reading an
attribute as a truth value would tell zero from its text, but no feature is looked for in this way.

Main definitions:

* `ClusterReport.ClusterStats.Respelled` — a cluster before and after some attributes were
  respelled;
* `ClusterReport.ClusterStats.spelled` — a cluster with all integers spelled as texts;
* `ClusterReport.ClusterStats.SameDiagnosis` — that two clusters have the same features and the same
  entries of stopped writes.

Main results:

* `ClusterReport.Feature.inUse_spelled` — a feature is found in either spelling;
* `ClusterReport.StopWrites.evaluated_spelled` — metrics are evaluated from either spelling;
* `ClusterReport.ClusterStats.sameDiagnosis_of_respelled` — **respelling attributes changes neither
  the features nor the entries of stopped writes**.
-/

import ClusterReport.Feature.Usage
import ClusterReport.Proofs.Fetched.Spelling
import ClusterReport.Proofs.StopWrites.Metrics

set_option relaxedAutoImplicit false
set_option autoImplicit false

namespace ClusterReport

/-! ### Clusters -/

namespace ClusterStats

/-- A cluster before and after some attributes were respelled. -/
structure Respelled (stats other : ClusterStats) : Prop where
  serviceStats : NodeStats.Respelled stats.serviceStats other.serviceStats
  serviceConfigs : NodeStats.Respelled stats.serviceConfigs other.serviceConfigs
  securityConfigs : NodeStats.Respelled stats.securityConfigs other.securityConfigs
  namespaceStats : NamespaceStats.Respelled stats.namespaceStats other.namespaceStats
  namespaceConfigs : NamespaceStats.Respelled stats.namespaceConfigs other.namespaceConfigs
  setStats : SetStats.Respelled stats.setStats other.setStats
  setConfigs : SetStats.Respelled stats.setConfigs other.setConfigs
  targetStats : NamespaceStats.Respelled stats.targetStats other.targetStats

/-- The cluster with all integers spelled as texts. -/
def spelled (stats : ClusterStats) : ClusterStats where
  serviceStats := NodeStats.spelled stats.serviceStats
  serviceConfigs := NodeStats.spelled stats.serviceConfigs
  securityConfigs := NodeStats.spelled stats.securityConfigs
  namespaceStats := NamespaceStats.spelled stats.namespaceStats
  namespaceConfigs := NamespaceStats.spelled stats.namespaceConfigs
  setStats := SetStats.spelled stats.setStats
  setConfigs := SetStats.spelled stats.setConfigs
  targetStats := NamespaceStats.spelled stats.targetStats

theorem Respelled.spelled_eq {stats other : ClusterStats} (h : Respelled stats other) :
    stats.spelled = other.spelled := by
  rw [spelled, spelled, h.serviceStats.spelled_eq, h.serviceConfigs.spelled_eq,
    h.securityConfigs.spelled_eq, h.namespaceStats.spelled_eq, h.namespaceConfigs.spelled_eq,
    h.setStats.spelled_eq, h.setConfigs.spelled_eq, h.targetStats.spelled_eq]

/-- Spelling comes through the merge of statistics and configurations. -/
@[simp] theorem service_spelled (stats : ClusterStats) :
    stats.spelled.service = NodeStats.spelled stats.service :=
  (NodeStats.spelled_merge stats.serviceStats stats.serviceConfigs).symm

@[simp] theorem namespaces_spelled (stats : ClusterStats) :
    stats.spelled.namespaces = NamespaceStats.spelled stats.namespaces :=
  (NamespaceStats.spelled_merge stats.namespaceStats stats.namespaceConfigs).symm

@[simp] theorem sets_spelled (stats : ClusterStats) :
    stats.spelled.sets = SetStats.spelled stats.sets :=
  (SetStats.spelled_merge stats.setStats stats.setConfigs).symm

end ClusterStats

/-! ### Features -/

namespace Feature

/-- What the checks see of a node, with all integers spelled as texts. -/
def NodeData.spelled (node : NodeData) : NodeData where
  service := node.service.map Stats.spelled
  security := node.security.map Stats.spelled
  namespaces := node.namespaces.map NodeStats.spelled
  targets := node.targets.map NodeStats.spelled

theorem nodeData_spelled (stats : ClusterStats) (node : String) :
    nodeData stats.spelled node = (nodeData stats node).spelled := by
  rw [nodeData, ClusterStats.service_spelled, ClusterStats.namespaces_spelled]
  simp only [ClusterStats.spelled, NodeStats.spelled, NamespaceStats.spelled,
    Keyed.data?_mapData]
  rfl

/-- The check does not read its fields as truth values. -/
def FieldCheck.ReadsNoTruth (c : FieldCheck) : Prop := ∀ value, c.threshold ≠ .truth value

instance (c : FieldCheck) : Decidable c.ReadsNoTruth :=
  inferInstanceAs (Decidable (∀ value, c.threshold ≠ .truth value))

namespace FieldCheck

variable {c : FieldCheck}

theorem order?_spelled (h : c.ReadsNoTruth) (reported : Json) :
    c.threshold.order? reported.spelled = c.threshold.order? reported := by
  unfold Threshold.order?
  cases hthreshold : c.threshold with
  | int n => rw [Json.toInt?_spelled]
  | text s => rw [Json.toText?_spelled]
  | truth value => exact absurd hthreshold (h value)

theorem passesStats_spelled (h : c.ReadsNoTruth) (stats : Stats) :
    c.passesStats stats.spelled = c.passesStats stats := by
  refine congrArg (List.any c.fields) (funext fun field => ?_)
  rw [Stats.get?_spelled]
  cases Dict.get? stats field with
  | none => rfl
  | some reported => exact congrArg (Option.any c.comparison.holds) (order?_spelled h reported)

theorem passesEntries_spelled (h : c.ReadsNoTruth) (entries : NodeStats) :
    c.passesEntries (NodeStats.spelled entries) = c.passesEntries entries := by
  rw [passesEntries, NodeStats.spelled, Keyed.values_fetched_mapData, List.any_map]
  exact congrArg (List.any _) (funext (passesStats_spelled h))

theorem passes_spelled (h : c.ReadsNoTruth) (node : NodeData) :
    c.passes node.spelled = c.passes node := by
  have hstats (d : Option Stats) :
      (d.map Stats.spelled).any c.passesStats = d.any c.passesStats := by
    cases d with
    | none => rfl
    | some stats => exact passesStats_spelled h stats
  have hentries (d : Option NodeStats) :
      (d.map NodeStats.spelled).any c.passesEntries = d.any c.passesEntries := by
    cases d with
    | none => rfl
    | some entries => exact passesEntries_spelled h entries
  rw [passes, passes, NodeData.spelled, hstats, hstats, hentries, hentries]

end FieldCheck

/-- No feature is looked for by reading truth values. -/
theorem readsNoTruth_of_mem_registry {f : Feature} (hf : f ∈ registry) {c : FieldCheck}
    (hc : c ∈ f.checks) : c.ReadsNoTruth := by
  have hall : ∀ f ∈ registry, ∀ c ∈ f.checks, c.ReadsNoTruth := by decide
  exact hall f hf c hc

/-- **A feature is found in either spelling.** -/
theorem inUse_spelled {f : Feature} (hf : f ∈ registry) (node : NodeData) :
    f.inUse node.spelled = f.inUse node := by
  rw [inUse, inUse, Bool.eq_iff_iff, List.any_eq_true, List.any_eq_true]
  refine exists_congr fun c => and_congr_right fun hc => ?_
  rw [FieldCheck.passes_spelled (readsNoTruth_of_mem_registry hf hc)]

theorem usageOf_spelled (node : NodeData) : usageOf node.spelled = usageOf node :=
  List.map_congr_left fun f hf => congrArg (Usage.mk f.name) (inUse_spelled hf node)

theorem usageByNode_spelled (stats : ClusterStats) :
    usageByNode stats.spelled = usageByNode stats := by
  refine Dict.ext_get? fun node => ?_
  rw [get?_usageByNode, get?_usageByNode, ClusterStats.service_spelled, NodeStats.spelled,
    Keyed.mapData, Dict.get?_map, Option.map_map, nodeData_spelled, usageOf_spelled]
  rfl

theorem usedInCluster_spelled (stats : ClusterStats) :
    usedInCluster stats.spelled = usedInCluster stats := by
  have hkeys : stats.spelled.service.keys = stats.service.keys := by
    rw [ClusterStats.service_spelled, NodeStats.spelled, Keyed.keys_mapData]
  rw [usedInCluster, usedInCluster, hkeys]
  refine congrArg (List.map _) (List.filter_congr fun f hf => ?_)
  rw [List.any_map, List.any_map]
  refine congrArg (List.any _) (funext fun node => ?_)
  rw [Function.comp_apply, nodeData_spelled, inUse_spelled hf, Function.comp_apply]

end Feature

/-! ### Stopped writes -/

namespace StopWrites

theorem readsAlike_spelled (keys : List String) (stats : Stats) :
    ReadsAlike keys stats.spelled stats where
  int?_eq key _ := Stats.int?_spelled stats key
  text?_eq key _ := Stats.text?_spelled stats key
  reports_eq key _ := Stats.reports_spelled stats key

theorem serviceEntries_spelled (service : Option Stats) (name : String) (stats : Stats) :
    serviceEntries (service.map Stats.spelled) name stats.spelled =
      serviceEntries service name stats := by
  cases service with
  | none => rfl
  | some service =>
      exact serviceEntries_congr (readsAlike_spelled _ service) (readsAlike_spelled _ stats) name

theorem namespaceEntries_spelled (name : String) (stats : Stats) :
    namespaceEntries name stats.spelled = namespaceEntries name stats :=
  namespaceEntries_congr (readsAlike_spelled _ stats) name

theorem setEntries_spelled (name set : String) (stats : Stats) :
    setEntries name set stats.spelled = setEntries name set stats :=
  setEntries_congr (readsAlike_spelled _ stats) name set

/-- **Metrics are evaluated from either spelling.** -/
theorem evaluated_spelled (stats : ClusterStats) (node : String) :
    evaluated stats.spelled node = evaluated stats node := by
  rw [evaluated, ClusterStats.namespaces_spelled, ClusterStats.sets_spelled]
  simp only [ClusterStats.spelled, NodeStats.spelled, NamespaceStats.spelled, SetStats.spelled,
    Keyed.data?_mapData, Keyed.getD_map_mapData, Keyed.entries_fetched_mapData, List.flatMap_map,
    serviceEntries_spelled, namespaceEntries_spelled, setEntries_spelled]
  rfl

theorem summary_spelled (stats : ClusterStats) : summary stats.spelled = summary stats := by
  have hnodes : nodes stats.spelled = nodes stats := by
    simp only [nodes, ClusterStats.spelled, NodeStats.spelled, NamespaceStats.spelled,
      SetStats.spelled, Keyed.keys_mapData]
  rw [summary, summary, hnodes]
  refine congrArg Dict.ofList (List.map_congr_left fun node _ => ?_)
  rw [entriesOfNode, entriesOfNode, evaluated_spelled]

end StopWrites

/-! ### Diagnosis -/

namespace ClusterStats

/-- Two clusters have the same features, on every node and altogether, and the same entries of
stopped writes. -/
structure SameDiagnosis (stats other : ClusterStats) : Prop where
  features : Feature.usedInCluster other = Feature.usedInCluster stats
  rows : Feature.usageByNode other = Feature.usageByNode stats
  entries : StopWrites.summary other = StopWrites.summary stats

theorem sameDiagnosis_spelled (stats : ClusterStats) : SameDiagnosis stats stats.spelled where
  features := Feature.usedInCluster_spelled stats
  rows := Feature.usageByNode_spelled stats
  entries := StopWrites.summary_spelled stats

/-- **Respelling attributes changes neither the features nor the entries of stopped writes.** -/
theorem sameDiagnosis_of_respelled {stats other : ClusterStats} (h : Respelled stats other) :
    SameDiagnosis stats other := by
  have hstats := sameDiagnosis_spelled stats
  have hother := sameDiagnosis_spelled other
  rw [h.spelled_eq] at hstats
  exact
    { features := hother.features.symm.trans hstats.features
      rows := hother.rows.symm.trans hstats.rows
      entries := hother.entries.symm.trans hstats.entries }

/-- A node with one namespace, which uses some of 100 bytes of memory and stops writes at some
percentage. -/
def ofFigures (reads used percentage : Json) : ClusterStats where
  serviceStats := .ofList [("n1", .data (.ofList [("stat_read_reqs", reads)]))]
  namespaceStats := .ofList [("n1", .data (.ofList [("test", .data (.ofList
    [("memory-size", .int 100), ("memory_used_bytes", used), ("stop_writes", .str "true")]))]))]
  namespaceConfigs := .ofList [("n1", .data (.ofList [("test", .data (.ofList
    [("stop-writes-pct", percentage)]))]))]

theorem respelled_ofFigures {reads reads' used used' percentage percentage' : Json}
    (hreads : Json.Respelled reads reads') (hused : Json.Respelled used used')
    (hpercentage : Json.Respelled percentage percentage') :
    Respelled (ofFigures reads used percentage) (ofFigures reads' used' percentage') where
  serviceStats := Dict.related_ofList
    (.cons ⟨rfl, .data (Dict.related_ofList (.cons ⟨rfl, hreads⟩ .nil))⟩ .nil)
  namespaceStats := Dict.related_ofList
    (.cons ⟨rfl, .data (Dict.related_ofList (.cons ⟨rfl, .data (Dict.related_ofList
      (.cons ⟨rfl, .same _⟩ (.cons ⟨rfl, hused⟩ (.cons ⟨rfl, .same _⟩ .nil))))⟩ .nil))⟩ .nil)
  namespaceConfigs := Dict.related_ofList
    (.cons ⟨rfl, .data (Dict.related_ofList (.cons ⟨rfl, .data (Dict.related_ofList
      (.cons ⟨rfl, hpercentage⟩ .nil))⟩ .nil))⟩ .nil)
  serviceConfigs _ := .none
  securityConfigs _ := .none
  setStats _ := .none
  setConfigs _ := .none
  targetStats _ := .none

/-- Records that were read are found, and used memory is the cause of stopped writes, whichever of
the figures are texts. -/
theorem sameDiagnosis_ofFigures :
    let numbers := ofFigures (.int 5) (.int 95) (.str "90")
    let texts := ofFigures (.str "5") (.str "95") (.int 90)
    Respelled numbers texts ∧ SameDiagnosis numbers texts ∧
      Feature.usedInCluster texts = ["KVS"] ∧
      (StopWrites.entriesOfNode texts "n1").map (·.stopsWrites) = [true] := by
  have hrespelled : Respelled (ofFigures (.int 5) (.int 95) (.str "90"))
      (ofFigures (.str "5") (.str "95") (.int 90)) :=
    respelled_ofFigures (.written rfl) (.written rfl) (.native (n := 90) rfl)
  exact ⟨hrespelled, sameDiagnosis_of_respelled hrespelled, by decide +kernel, by decide +kernel⟩

end ClusterStats
end ClusterReport
