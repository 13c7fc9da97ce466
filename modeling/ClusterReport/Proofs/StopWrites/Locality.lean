/-
**Entries are local.**

The entries of a node that are about one of its namespaces are made of the node's own statistics and
of the merged ones of that namespace, and those about a set of the merged ones of that set.  What a
cluster knows of other nodes, namespaces and sets has no part in them, whether it comes, goes or
fails.  And as the metrics that are evaluated have keys of their own, all of them are kept.

Main definitions:

* `ClusterReport.StopWrites.entriesAbout` — the entries of a node about a namespace or a set;
* `ClusterReport.StopWrites.ofNamespace`, `ofSet` — what is evaluated from the statistics of a
  namespace and of a set;
* `ClusterReport.ClusterStats.EditedAt` — a cluster before and after an edit of one of its inputs;
* `ClusterReport.StopWrites.IsLocal` — what is true of the entries of a cluster.

Main results:

* `ClusterReport.StopWrites.nodup_keys_evaluated` — no two evaluations have one key;
* `ClusterReport.StopWrites.entriesAbout_namespace`, `entriesAbout_set` — the entries about a
  namespace and about a set by their statistics;
* `ClusterReport.StopWrites.isLocal_summary` — **entries are local, and all of them are kept**.
-/

import ClusterReport.Proofs.Fetched.Path
import ClusterReport.Proofs.StopWrites.Collected
import Mathlib.Data.List.Forall2
import Mathlib.Data.List.Nodup
import Mathlib.Data.List.Perm.Basic
import Mathlib.Data.List.Sort

set_option relaxedAutoImplicit false
set_option autoImplicit false

namespace ClusterReport

namespace StopWrites

/-! ### Keys of evaluations -/

/-- A metric whose entry, if it is evaluated, has one of some names. -/
def IsNamedFrom (metric? : Option Entry) (names : List String) : Prop :=
  ∀ e ∈ metric?, e.metric ∈ names

theorem mem_names_of_mem {metrics : List (Option Entry)} {names : List (List String)}
    (h : List.Forall₂ IsNamedFrom metrics names) {e : Entry}
    (he : e ∈ metrics.flatMap Option.toList) : e.metric ∈ names.flatten := by
  induction h with
  | nil => cases he
  | cons hfirst _ ih =>
      rw [List.flatMap_cons, List.mem_append] at he
      rw [List.flatten_cons, List.mem_append]
      exact he.imp (fun h => hfirst e (Option.mem_toList.1 h)) ih

theorem nodup_metrics (names : List (List String)) {metrics : List (Option Entry)}
    (h : List.Forall₂ IsNamedFrom metrics names) (hnames : names.flatten.Nodup) :
    ((metrics.flatMap Option.toList).map Entry.metric).Nodup := by
  induction h with
  | nil => exact List.nodup_nil
  | @cons metric? _ metrics _ hfirst hrest ih =>
      rw [List.flatten_cons] at hnames
      obtain ⟨-, hnames, hdisjoint⟩ := List.nodup_append.1 hnames
      rw [List.flatMap_cons, List.map_append]
      refine List.nodup_append.2 ⟨?_, ih hnames, ?_⟩
      · cases metric? <;> simp
      · intro a ha b hb
        obtain ⟨e, he, rfl⟩ := List.mem_map.1 ha
        obtain ⟨e', he', rfl⟩ := List.mem_map.1 hb
        exact hdisjoint _ (hfirst e (Option.mem_toList.1 he)) _ (mem_names_of_mem hrest he')

theorem nodup_keys_of_metrics {es : List Entry} (h : (es.map Entry.metric).Nodup) :
    (es.map Entry.key).Nodup := by
  have hmetric : es.map Entry.metric = (es.map Entry.key).map Key.metric := by
    rw [List.map_map]
    rfl
  exact List.Nodup.of_map _ (hmetric ▸ h)

/-- The names of the metrics of a namespace, metric by metric. -/
def namespaceMetricNames : List (List String) :=
  [["cluster_clock_skew_ms"], ["system_free_mem_pct"], ["device_avail_pct", "pmem_avail_pct"],
    ["device_used_bytes", "pmem_used_bytes"], ["memory_used_bytes"]]

/-- The names of the metrics of a set, metric by metric. -/
def setMetricNames : List (List String) :=
  [["memory_data_bytes", "device_data_bytes"], ["objects"]]

theorem exists_namespaceMetrics (service : Option Stats) (name : String) (ns : Stats) :
    ∃ metrics, List.Forall₂ IsNamedFrom metrics namespaceMetricNames ∧
      serviceEntries service name ns ++ namespaceEntries name ns =
        metrics.flatMap Option.toList := by
  refine ⟨[service.bind fun service => clockMetric? service name ns,
    service.bind fun service => memoryMetric? service name ns, availabilityMetric? name ns,
    storageMetric? name ns, namespaceMemoryMetric? name ns],
    .cons ?clock (.cons ?memory (.cons ?availability (.cons ?storage (.cons ?usage .nil)))), ?_⟩
  case clock =>
    intro e he
    obtain ⟨service, -, h⟩ := Option.bind_eq_some_iff.1 he
    exact List.mem_singleton.2 (congrArg Key.metric (key_of_clockMetric? h))
  case memory =>
    intro e he
    obtain ⟨service, -, h⟩ := Option.bind_eq_some_iff.1 he
    exact List.mem_singleton.2 (congrArg Key.metric (key_of_memoryMetric? h))
  case availability =>
    exact fun e he => List.mem_pair.2
      ((key_of_availabilityMetric? he).imp (congrArg Key.metric) (congrArg Key.metric))
  case storage =>
    exact fun e he => List.mem_pair.2
      ((key_of_storageMetric? he).imp (congrArg Key.metric) (congrArg Key.metric))
  case usage =>
    exact fun e he =>
      List.mem_singleton.2 (congrArg Key.metric (key_of_namespaceMemoryMetric? he))
  · cases service <;> simp [serviceEntries, namespaceEntries]

theorem exists_setMetrics (name set : String) (ofSet : Stats) :
    ∃ metrics, List.Forall₂ IsNamedFrom metrics setMetricNames ∧
      setEntries name set ofSet = metrics.flatMap Option.toList := by
  refine ⟨[setSizeMetric? name set ofSet, setCountMetric? name set ofSet],
    .cons ?size (.cons ?count .nil), ?_⟩
  case size =>
    exact fun e he => List.mem_pair.2
      ((key_of_setSizeMetric? he).imp (congrArg Key.metric) (congrArg Key.metric))
  case count =>
    exact fun e he => List.mem_singleton.2 (congrArg Key.metric (key_of_setCountMetric? he))
  · simp [setEntries]

theorem metric_of_mem_namespace {service : Option Stats} {name : String} {ns : Stats} {e : Entry}
    (h : e ∈ serviceEntries service name ns ++ namespaceEntries name ns) :
    e.metric ∈ namespaceMetricNames.flatten := by
  obtain ⟨metrics, hnames, hentries⟩ := exists_namespaceMetrics service name ns
  exact mem_names_of_mem hnames (hentries ▸ h)

theorem nodup_keys_namespace (service : Option Stats) (name : String) (ns : Stats) :
    ((serviceEntries service name ns ++ namespaceEntries name ns).map Entry.key).Nodup := by
  obtain ⟨metrics, hnames, hentries⟩ := exists_namespaceMetrics service name ns
  rw [hentries]
  exact nodup_keys_of_metrics (nodup_metrics _ hnames (by decide))

theorem nodup_keys_setEntries (name set : String) (ofSet : Stats) :
    ((setEntries name set ofSet).map Entry.key).Nodup := by
  obtain ⟨metrics, hnames, hentries⟩ := exists_setMetrics name set ofSet
  rw [hentries]
  exact nodup_keys_of_metrics (nodup_metrics _ hnames (by decide))

theorem names_of_mem_namespace {service : Option Stats} {name : String} {ns : Stats} {e : Entry}
    (h : e ∈ serviceEntries service name ns ++ namespaceEntries name ns) :
    e.namespaceName = some name ∧ e.setName = none := by
  obtain ⟨metric, hkey, -⟩ := mem_namespace_iff_namespaceMetric?.1 h
  exact ⟨congrArg Key.namespaceName hkey, congrArg Key.setName hkey⟩

theorem names_of_mem_setEntries {name set : String} {ofSet : Stats} {e : Entry}
    (h : e ∈ setEntries name set ofSet) : e.namespaceName = some name ∧ e.setName = some set := by
  obtain ⟨metric, hkey, -⟩ := mem_setEntries_iff_setMetric?.1 h
  exact ⟨congrArg Key.namespaceName hkey, congrArg Key.setName hkey⟩

/-- Lists of entries for the keys of a dictionary have keys of their own if each of them has, and
if what is made for a key tells it. -/
theorem nodup_keys_flatMap {α : Type} (told : Entry → Option String) {d : Dict α}
    {made : String × α → List Entry} (heach : ∀ x, ((made x).map Entry.key).Nodup)
    (htold : ∀ x, ∀ e ∈ made x, told e = some x.1)
    (hkey : ∀ a b : Entry, a.key = b.key → told a = told b) :
    ((d.entries.flatMap made).map Entry.key).Nodup := by
  rw [List.map_flatMap]
  refine List.nodup_flatMap.2 ⟨fun x _ => heach x, d.sorted.imp fun {x y} hlt => ?_⟩
  intro key hx hy
  obtain ⟨a, ha, rfl⟩ := List.mem_map.1 hx
  obtain ⟨b, hb, hab⟩ := List.mem_map.1 hy
  have hsame : some y.1 = some x.1 := by
    rw [← htold y b hb, ← htold x a ha]
    exact hkey b a hab
  exact String.ne_of_lt hlt (Option.some.inj hsame).symm

/-- **No two evaluations have one key.** -/
theorem nodup_keys_evaluated (stats : ClusterStats) (node : String) :
    ((evaluated stats node).map Entry.key).Nodup := by
  have hnamespaces : ∀ d : Dict Stats, ((d.entries.flatMap fun ns =>
      serviceEntries (stats.serviceStats.data? node) ns.1 ns.2 ++
        namespaceEntries ns.1 ns.2).map Entry.key).Nodup := fun d =>
    nodup_keys_flatMap Entry.namespaceName (fun ns => nodup_keys_namespace _ ns.1 ns.2)
      (fun _ _ he => (names_of_mem_namespace he).1) fun _ _ h => congrArg Key.namespaceName h
  have hsets : ∀ d : Dict (Keyed Stats), ((d.entries.flatMap fun ns =>
      ns.2.fetched.entries.flatMap fun set => setEntries ns.1 set.1 set.2).map
        Entry.key).Nodup := fun d =>
    nodup_keys_flatMap Entry.namespaceName
      (fun ns => nodup_keys_flatMap Entry.setName
        (fun set => nodup_keys_setEntries ns.1 set.1 set.2)
        (fun _ _ he => (names_of_mem_setEntries he).2) fun _ _ h => congrArg Key.setName h)
      (fun ns e he => by
        obtain ⟨set, -, he⟩ := List.mem_flatMap.1 he
        exact (names_of_mem_setEntries he).1)
      fun _ _ h => congrArg Key.namespaceName h
  refine (((List.flatMap_append_perm _ _ _).append_right _).map Entry.key).nodup_iff.2 ?_
  rw [List.map_append]
  refine List.nodup_append.2 ⟨hnamespaces _, hsets _, fun a ha b hb heq => ?_⟩
  obtain ⟨e, he, rfl⟩ := List.mem_map.1 ha
  obtain ⟨e', he', rfl⟩ := List.mem_map.1 hb
  obtain ⟨ns, -, he⟩ := List.mem_flatMap.1 he
  obtain ⟨ns', -, he'⟩ := List.mem_flatMap.1 he'
  obtain ⟨set, -, he'⟩ := List.mem_flatMap.1 he'
  -- the metrics of a set name it, and those of a namespace name none
  have hset : none = some set.1 := by
    rw [← (names_of_mem_namespace he).2, ← (names_of_mem_setEntries he').2]
    exact congrArg Key.setName heq
  cases hset

/-! ### Entries about one namespace or set -/

/-- The entries of a node; a node that is not in the summary has none. -/
def entriesAt (stats : ClusterStats) (node : String) : List Entry :=
  ((summary stats).get? node).getD []

/-- The entries of a node about one of its namespaces, or about a set in it. -/
def entriesAbout (stats : ClusterStats) (node name : String) (set : Option String) : List Entry :=
  (entriesAt stats node).filter fun e => e.namespaceName = some name ∧ e.setName = set

/-- What is evaluated for a namespace from its statistics and those of the node. -/
def ofNamespace (service : Option Stats) (name : String) (ns : Option Stats) : List Entry :=
  collect (ns.elim [] fun ns => serviceEntries service name ns ++ namespaceEntries name ns)

/-- What is evaluated for a set from its statistics. -/
def ofSet (name set : String) (ofSet : Option Stats) : List Entry :=
  collect (ofSet.elim [] (setEntries name set))

/-- A node that is not in the summary has nothing to evaluate. -/
theorem entriesAt_eq (stats : ClusterStats) (node : String) :
    entriesAt stats node = entriesOfNode stats node := by
  by_cases hnode : node ∈ nodes stats
  · rw [entriesAt, get?_summary.2 ⟨hnode, rfl⟩, Option.getD_some]
  · have hnone : (summary stats).get? node = none :=
      Option.eq_none_iff_forall_ne_some.2 fun entries h => hnode (get?_summary.1 h).1
    rw [entriesAt, hnone, Option.getD_none]
    refine (List.eq_nil_iff_forall_not_mem.2 fun e he => hnode ?_).symm
    rcases mem_evaluated_iff.1 (mem_of_mem_collect he) with ⟨name, ns, hns, -⟩ |
      ⟨name, set, ofSet, hofSet, -⟩
    · exact mem_nodes_of_namespace? hns
    · exact mem_nodes_of_set? hofSet

theorem increasing_entriesAt (stats : ClusterStats) (node : String) :
    Increasing (entriesAt stats node) :=
  entriesAt_eq stats node ▸ increasing_collect _

/-- **The entries of a node are what is evaluated for it**, none of which takes the place of
another. -/
theorem perm_entriesAt (stats : ClusterStats) (node : String) :
    (entriesAt stats node).Perm (evaluated stats node) :=
  entriesAt_eq stats node ▸ perm_collect (nodup_keys_evaluated stats node)

theorem increasing_entriesAbout (stats : ClusterStats) (node name : String)
    (set : Option String) : Increasing (entriesAbout stats node name set) :=
  (increasing_entriesAt stats node).filter _

theorem mem_entriesAbout_iff {stats : ClusterStats} {node name : String} {set : Option String}
    {e : Entry} : e ∈ entriesAbout stats node name set ↔
      e ∈ evaluated stats node ∧ e.namespaceName = some name ∧ e.setName = set := by
  rw [entriesAbout, List.mem_filter, (perm_entriesAt stats node).mem_iff, decide_eq_true_iff]

theorem mem_ofNamespace_iff {service : Option Stats} {name : String} {ns? : Option Stats}
    {e : Entry} : e ∈ ofNamespace service name ns? ↔
      ∃ ns, ns? = some ns ∧ e ∈ serviceEntries service name ns ++ namespaceEntries name ns := by
  cases ns? with
  | none => exact iff_of_false List.not_mem_nil (by simp)
  | some ns =>
      have hperm := perm_collect (nodup_keys_namespace service name ns)
      rw [ofNamespace, Option.elim_some, hperm.mem_iff]
      simp

theorem mem_ofSet_iff {name set : String} {set? : Option Stats} {e : Entry} :
    e ∈ ofSet name set set? ↔ ∃ attributes, set? = some attributes ∧
      e ∈ setEntries name set attributes := by
  cases set? with
  | none => exact iff_of_false List.not_mem_nil (by simp)
  | some attributes =>
      rw [ofSet, Option.elim_some, (perm_collect (nodup_keys_setEntries name set _)).mem_iff]
      simp

/-- **The entries about a namespace are made of its merged statistics and the node's own.** -/
theorem entriesAbout_namespace (stats : ClusterStats) (node name : String) :
    entriesAbout stats node name none =
      ofNamespace (stats.serviceStats.data? node) name (stats.namespace? node name) := by
  refine List.Pairwise.eq_of_mem_iff (increasing_entriesAbout stats node name none)
    (increasing_collect _) fun e => ?_
  rw [mem_entriesAbout_iff, mem_evaluated_iff, mem_ofNamespace_iff]
  constructor
  · rintro ⟨⟨name', ns, hns, he⟩ | ⟨name', set, ofSet, -, he⟩, hname, hset⟩
    · have hsame := (names_of_mem_namespace he).1.symm.trans hname
      obtain rfl := Option.some.inj hsame
      exact ⟨ns, hns, he⟩
    · -- the entries about sets name them
      cases hset.symm.trans (names_of_mem_setEntries he).2
  · rintro ⟨ns, hns, he⟩
    exact ⟨.inl ⟨name, ns, hns, he⟩, names_of_mem_namespace he⟩

/-- **The entries about a set are made of its merged statistics.** -/
theorem entriesAbout_set (stats : ClusterStats) (node name set : String) :
    entriesAbout stats node name (some set) = ofSet name set (stats.set? node name set) := by
  refine List.Pairwise.eq_of_mem_iff (increasing_entriesAbout stats node name (some set))
    (increasing_collect _) fun e => ?_
  rw [mem_entriesAbout_iff, mem_evaluated_iff, mem_ofSet_iff]
  constructor
  · rintro ⟨⟨name', ns, -, he⟩ | ⟨name', set', ofSet, hofSet, he⟩, hname, hset⟩
    · cases hset.symm.trans (names_of_mem_namespace he).2
    · obtain ⟨hname', hset'⟩ := names_of_mem_setEntries he
      obtain rfl := Option.some.inj (hname'.symm.trans hname)
      obtain rfl := Option.some.inj (hset'.symm.trans hset)
      exact ⟨ofSet, hofSet, he⟩
  · rintro ⟨ofSet, hofSet, he⟩
    exact ⟨.inr ⟨name, set, ofSet, hofSet, he⟩, names_of_mem_setEntries he⟩

end StopWrites

/-! ### Edits of a cluster -/

namespace ClusterStats

/-- A cluster before and after an edit at a path of one of its inputs. -/
inductive EditedAt (stats : ClusterStats) (path : List String) : ClusterStats → Prop
  | serviceStats {new : NodeStats} (h : Nested.Edited 1 path stats.serviceStats new) :
      EditedAt stats path { stats with serviceStats := new }
  | serviceConfigs {new : NodeStats} (h : Nested.Edited 1 path stats.serviceConfigs new) :
      EditedAt stats path { stats with serviceConfigs := new }
  | securityConfigs {new : NodeStats} (h : Nested.Edited 1 path stats.securityConfigs new) :
      EditedAt stats path { stats with securityConfigs := new }
  | namespaceStats {new : NamespaceStats} (h : Nested.Edited 2 path stats.namespaceStats new) :
      EditedAt stats path { stats with namespaceStats := new }
  | namespaceConfigs {new : NamespaceStats} (h : Nested.Edited 2 path stats.namespaceConfigs new) :
      EditedAt stats path { stats with namespaceConfigs := new }
  | setStats {new : SetStats} (h : Nested.Edited 3 path stats.setStats new) :
      EditedAt stats path { stats with setStats := new }
  | setConfigs {new : SetStats} (h : Nested.Edited 3 path stats.setConfigs new) :
      EditedAt stats path { stats with setConfigs := new }
  | targetStats {new : NamespaceStats} (h : Nested.Edited 2 path stats.targetStats new) :
      EditedAt stats path { stats with targetStats := new }

open Nested (along dataAlong)

/-- The merged statistics of a namespace are what the two inputs tell along its path, merged. -/
theorem namespace?_eq (stats : ClusterStats) (node name : String) :
    stats.namespace? node name = (Option.merge (Fetched.merge Stats.merge)
      (along 2 (some (.data stats.namespaceStats)) [node, name])
      (along 2 (some (.data stats.namespaceConfigs)) [node, name])).bind Fetched.data? :=
  (Nested.dataAlong_two stats.namespaces node name).symm.trans
    (Nested.dataAlong_merge 2 (some (.data stats.namespaceStats))
      (some (.data stats.namespaceConfigs)) [node, name])

theorem set?_eq (stats : ClusterStats) (node name set : String) :
    stats.set? node name set = (Option.merge (Fetched.merge Stats.merge)
      (along 3 (some (.data stats.setStats)) [node, name, set])
      (along 3 (some (.data stats.setConfigs)) [node, name, set])).bind Fetched.data? :=
  (Nested.dataAlong_three stats.sets node name set).symm.trans
    (Nested.dataAlong_merge 3 (some (.data stats.setStats))
      (some (.data stats.setConfigs)) [node, name, set])

namespace EditedAt

variable {stats stats' : ClusterStats} {path : List String} {node name set : String}

theorem data?_serviceStats (h : stats.EditedAt path stats') (hpath : ¬ path <+: [node]) :
    stats'.serviceStats.data? node = stats.serviceStats.data? node := by
  cases h with
  | serviceStats h =>
      rw [← Nested.dataAlong_one, ← Nested.dataAlong_one, dataAlong, h.along_eq hpath]
      rfl
  | _ => rfl

theorem namespace? (h : stats.EditedAt path stats') (hpath : ¬ path <+: [node, name]) :
    stats'.namespace? node name = stats.namespace? node name := by
  rw [namespace?_eq, namespace?_eq]
  cases h with
  | namespaceStats h => rw [h.along_eq hpath]
  | namespaceConfigs h => rw [h.along_eq hpath]
  | _ => rfl

theorem set? (h : stats.EditedAt path stats') (hpath : ¬ path <+: [node, name, set]) :
    stats'.set? node name set = stats.set? node name set := by
  rw [set?_eq, set?_eq]
  cases h with
  | setStats h => rw [h.along_eq hpath]
  | setConfigs h => rw [h.along_eq hpath]
  | _ => rfl

end EditedAt
end ClusterStats

/-! ### Locality -/

namespace StopWrites

/-- What is true of the entries of a cluster: there are some, or none, for each node that anything
was asked of, and they are what is evaluated for the node, each under a key of its own; those about
a namespace or about a set are made of the statistics of these alone, and an edit that is not on the
path to them changes none of them. -/
structure IsLocal (stats : ClusterStats) : Prop where
  mem_keys : ∀ node, node ∈ (summary stats).keys ↔
    node ∈ stats.serviceStats.keys ∨ node ∈ stats.namespaceStats.keys ∨
      node ∈ stats.namespaceConfigs.keys ∨ node ∈ stats.setStats.keys ∨
      node ∈ stats.setConfigs.keys
  kept : ∀ node, (entriesAt stats node).Perm (evaluated stats node)
  distinct : ∀ node, ((evaluated stats node).map Entry.key).Nodup
  about : ∀ node, ∀ e ∈ entriesAt stats node, ∃ name set, e ∈ entriesAbout stats node name set
  ofNamespace : ∀ node name, entriesAbout stats node name none =
    ofNamespace (stats.serviceStats.data? node) name (stats.namespace? node name)
  ofSet : ∀ node name set, entriesAbout stats node name (some set) =
    ofSet name set (stats.set? node name set)
  elsewhere : ∀ path stats', stats.EditedAt path stats' → ∀ node name set,
    ¬ path <+: node :: name :: set.toList →
      entriesAbout stats' node name set = entriesAbout stats node name set

/-- **Entries are local, and all of them are kept.** -/
theorem isLocal_summary (stats : ClusterStats) : IsLocal stats where
  mem_keys node := by
    rw [mem_keys_summary_iff]
    simp only [nodes, List.mem_append, or_assoc]
  kept := perm_entriesAt stats
  distinct := nodup_keys_evaluated stats
  about node e he := by
    rw [(perm_entriesAt stats node).mem_iff] at he
    rcases mem_evaluated_iff.1 he with ⟨name, ns, -, h⟩ | ⟨name, set, ofSet, -, h⟩
    · exact ⟨name, none, mem_entriesAbout_iff.2 ⟨he, names_of_mem_namespace h⟩⟩
    · exact ⟨name, some set, mem_entriesAbout_iff.2 ⟨he, names_of_mem_setEntries h⟩⟩
  ofNamespace := entriesAbout_namespace stats
  ofSet := entriesAbout_set stats
  elsewhere path stats' h node name set hpath := by
    cases set with
    | none =>
        have hnode : ¬ path <+: [node] := fun hleads => hpath (hleads.trans ⟨[name], rfl⟩)
        rw [entriesAbout_namespace, entriesAbout_namespace, h.data?_serviceStats hnode,
          h.namespace? hpath]
    | some set => rw [entriesAbout_set, entriesAbout_set, h.set? hpath]

end StopWrites

end ClusterReport
