/-
**The entries of a node.**

What is evaluated for a node is kept under the key of the evaluation, and each key names the one
namespace or set whose statistics it is evaluated from.  No two evaluations share a key, so that
none takes the place of another: the entries of a node are its evaluations.

Main definitions:

* `ClusterReport.ClusterStats.namespace?`, `set?` — the merged statistics of a namespace and of a
  set at a node;
* `ClusterReport.StopWrites.evaluation?` — what is evaluated for a node under a key.

Main results:

* `ClusterReport.StopWrites.get?_summary` — the nodes of the summary and their entries;
* `ClusterReport.StopWrites.mem_evaluated_iff_evaluation?` — an evaluation is found by its key;
* `ClusterReport.StopWrites.mem_entriesOfNode_iff` — **every evaluation is kept**.
-/

import ClusterReport.Proofs.Fetched.Merge
import ClusterReport.Proofs.StopWrites.Metrics

set_option relaxedAutoImplicit false
set_option autoImplicit false

universe u

namespace ClusterReport

/-! ### Fetched data -/

namespace Keyed

variable {α : Type u}

theorem mem_entries_fetched_iff {d : Keyed α} {key : String} {value : α} :
    (key, value) ∈ d.fetched.entries ↔ d.data? key = some value := by
  rw [Dict.mem_entries_iff, fetched, Dict.get?_filterMap]
  rfl

theorem mem_entries_fetched_getD_iff {d : Option (Keyed α)} {key : String} {value : α} :
    (key, value) ∈ (d.getD .empty).fetched.entries ↔
      (d.bind fun inner => inner.data? key) = some value := by
  cases d with
  | none => exact iff_of_false List.not_mem_nil (by simp)
  | some inner => exact mem_entries_fetched_iff

/-- Merged data under a key comes from an entry of one of the two sides. -/
theorem mem_keys_of_data?_merge {combine : α → α → α} {base overlay : Keyed α} {key : String}
    {value : α} (h : (merge combine base overlay).data? key = some value) :
    key ∈ base.keys ∨ key ∈ overlay.keys := by
  obtain ⟨fetched, hfetched, -⟩ := Option.bind_eq_some_iff.1 h
  exact ((mergesEntries_merge combine base overlay).mem_keys key).1
    (Dict.mem_keys_iff.2 ⟨fetched, hfetched⟩)

end Keyed

namespace ClusterStats

/-- The statistics and configuration of a namespace at a node. -/
def namespace? (stats : ClusterStats) (node name : String) : Option Stats :=
  (stats.namespaces.data? node).bind fun namespaces => namespaces.data? name

/-- The statistics and configuration of a set at a node. -/
def set? (stats : ClusterStats) (node name set : String) : Option Stats :=
  ((stats.sets.data? node).bind fun namespaces => namespaces.data? name).bind fun sets =>
    sets.data? set

end ClusterStats

namespace StopWrites

/-! ### Keys -/

theorem compareNames_eq_iff {a b : Option String} : compareNames a b = .eq ↔ a = b := by
  cases a with
  | none => cases b <;> simp [compareNames]
  | some a =>
      cases b with
      | none => simp [compareNames]
      | some b => simp [compareNames]

theorem Key.compare_eq_iff {a b : Key} : a.compare b = .eq ↔ a = b := by
  obtain ⟨name, set, metric⟩ := a
  obtain ⟨name', set', metric'⟩ := b
  rw [Key.compare, Ordering.then_eq_eq, Ordering.then_eq_eq, compareNames_eq_iff,
    compareNames_eq_iff, Std.compare_eq_iff_eq, Key.mk.injEq]

/-! ### Collecting -/

theorem mem_of_mem_insertEntry {x e : Entry} {es : List Entry} (h : x ∈ insertEntry e es) :
    x = e ∨ x ∈ es := by
  induction es with
  | nil => exact .inl (List.mem_singleton.1 h)
  | cons other rest ih =>
      unfold insertEntry at h
      split at h
      · exact List.mem_cons.1 h
      · exact (List.mem_cons.1 h).imp_right (List.mem_cons_of_mem _)
      · rcases List.mem_cons.1 h with rfl | h
        · exact .inr List.mem_cons_self
        · exact (ih h).imp_right (List.mem_cons_of_mem _)

theorem mem_keys_insertEntry {e : Entry} {key : Key} {es : List Entry} :
    key ∈ (insertEntry e es).map Entry.key ↔ key = e.key ∨ key ∈ es.map Entry.key := by
  induction es with
  | nil => simp [insertEntry]
  | cons other rest ih =>
      unfold insertEntry
      split
      case h_1 => rw [List.map_cons, List.mem_cons]
      case h_2 heq =>
        -- the entry that is replaced has the same key
        have hkey := Key.compare_eq_iff.1 heq
        rw [List.map_cons, List.map_cons, List.mem_cons, List.mem_cons, ← hkey, ← or_assoc, or_self]
      case h_3 => rw [List.map_cons, List.map_cons, List.mem_cons, List.mem_cons, ih, or_left_comm]

theorem mem_of_mem_foldl_insertEntry {x : Entry} {es done : List Entry}
    (h : x ∈ es.foldl (fun done e => insertEntry e done) done) : x ∈ done ∨ x ∈ es := by
  induction es generalizing done with
  | nil => exact .inl h
  | cons e rest ih =>
      rcases ih h with h | h
      · rcases mem_of_mem_insertEntry h with rfl | h
        · exact .inr List.mem_cons_self
        · exact .inl h
      · exact .inr (List.mem_cons_of_mem _ h)

theorem mem_keys_foldl_insertEntry {key : Key} {es done : List Entry} :
    key ∈ (es.foldl (fun done e => insertEntry e done) done).map Entry.key ↔
      key ∈ done.map Entry.key ∨ key ∈ es.map Entry.key := by
  induction es generalizing done with
  | nil => simp
  | cons e rest ih =>
      rw [List.foldl_cons, ih, mem_keys_insertEntry, List.map_cons, List.mem_cons, or_assoc,
        or_left_comm]

/-- **Nothing is made up.** -/
theorem mem_of_mem_collect {x : Entry} {es : List Entry} (h : x ∈ collect es) : x ∈ es :=
  (mem_of_mem_foldl_insertEntry h).resolve_left List.not_mem_nil

/-- **No key is lost.** -/
theorem mem_keys_collect {key : Key} {es : List Entry} :
    key ∈ (collect es).map Entry.key ↔ key ∈ es.map Entry.key := by
  rw [collect, mem_keys_foldl_insertEntry]
  simp

/-! ### The summary -/

theorem mem_keys_summary_iff {stats : ClusterStats} {node : String} :
    node ∈ (summary stats).keys ↔ node ∈ nodes stats := by
  rw [summary, Dict.mem_keys_ofList, List.map_map]
  simp

/-- The summary has the nodes that anything was asked of, with their entries. -/
theorem get?_summary {stats : ClusterStats} {node : String} {entries : List Entry} :
    (summary stats).get? node = some entries ↔
      node ∈ nodes stats ∧ entries = entriesOfNode stats node := by
  have hentries : ∀ found, (summary stats).get? node = some found →
      found = entriesOfNode stats node := by
    intro found hfound
    obtain ⟨other, -, hother⟩ := List.mem_map.1 (Dict.mem_of_get?_ofList hfound)
    obtain ⟨rfl, rfl⟩ := Prod.mk.inj hother
    rfl
  constructor
  · intro h
    exact ⟨mem_keys_summary_iff.1 (Dict.mem_keys_iff.2 ⟨entries, h⟩), hentries entries h⟩
  · rintro ⟨hnode, rfl⟩
    obtain ⟨found, hfound⟩ := Dict.mem_keys_iff.1 (mem_keys_summary_iff.2 hnode)
    rw [hfound, hentries found hfound]

theorem mem_nodes_of_namespace? {stats : ClusterStats} {node name : String} {ns : Stats}
    (h : stats.namespace? node name = some ns) : node ∈ nodes stats := by
  obtain ⟨namespaces, hnamespaces, -⟩ := Option.bind_eq_some_iff.1 h
  simp only [nodes, List.mem_append]
  rcases Keyed.mem_keys_of_data?_merge hnamespaces with hkey | hkey
  · exact .inl (.inl (.inl (.inr hkey)))
  · exact .inl (.inl (.inr hkey))

theorem mem_nodes_of_set? {stats : ClusterStats} {node name set : String} {ofSet : Stats}
    (h : stats.set? node name set = some ofSet) : node ∈ nodes stats := by
  obtain ⟨sets, hsets, -⟩ := Option.bind_eq_some_iff.1 h
  obtain ⟨namespaces, hnamespaces, -⟩ := Option.bind_eq_some_iff.1 hsets
  simp only [nodes, List.mem_append]
  exact (Keyed.mem_keys_of_data?_merge hnamespaces).imp_left .inr

/-! ### Evaluations by key -/

/-- What is evaluated for a namespace under the name of a metric. -/
def namespaceMetric? (service : Option Stats) (name : String) (ns : Stats) (metric : String) :
    Option Entry :=
  if metric = "cluster_clock_skew_ms" then
    service.bind fun service => clockMetric? service name ns
  else if metric = "system_free_mem_pct" then
    service.bind fun service => memoryMetric? service name ns
  else if metric = "device_avail_pct" ∨ metric = "pmem_avail_pct" then availabilityMetric? name ns
  else if metric = "device_used_bytes" ∨ metric = "pmem_used_bytes" then storageMetric? name ns
  else namespaceMemoryMetric? name ns

/-- What is evaluated for a set under the name of a metric. -/
def setMetric? (name set : String) (ofSet : Stats) (metric : String) : Option Entry :=
  if metric = "objects" then setCountMetric? name set ofSet else setSizeMetric? name set ofSet

/-- What is evaluated for a node under a key, from the statistics of the one namespace or set that
the key names. -/
def evaluation? (stats : ClusterStats) (node : String) (key : Key) : Option Entry :=
  key.namespaceName.bind fun name =>
    match key.setName with
    | none => (stats.namespace? node name).bind fun ns =>
        namespaceMetric? (stats.serviceStats.data? node) name ns key.metric
    | some set => (stats.set? node name set).bind fun ofSet => setMetric? name set ofSet key.metric

theorem evaluation?_namespace (stats : ClusterStats) (node name metric : String) :
    evaluation? stats node ⟨some name, none, metric⟩ =
      (stats.namespace? node name).bind fun ns =>
        namespaceMetric? (stats.serviceStats.data? node) name ns metric := rfl

theorem evaluation?_set (stats : ClusterStats) (node name set metric : String) :
    evaluation? stats node ⟨some name, some set, metric⟩ =
      (stats.set? node name set).bind fun ofSet => setMetric? name set ofSet metric := rfl

theorem mem_namespace_iff {service : Option Stats} {name : String} {ns : Stats} {e : Entry} :
    e ∈ serviceEntries service name ns ++ namespaceEntries name ns ↔
      (service.bind fun service => clockMetric? service name ns) = some e ∨
      (service.bind fun service => memoryMetric? service name ns) = some e ∨
      availabilityMetric? name ns = some e ∨ storageMetric? name ns = some e ∨
      namespaceMemoryMetric? name ns = some e := by
  cases service with
  | none => simp [serviceEntries, namespaceEntries]
  | some service => simp [serviceEntries, namespaceEntries]

theorem mem_namespace_iff_namespaceMetric? {service : Option Stats} {name : String} {ns : Stats}
    {e : Entry} : e ∈ serviceEntries service name ns ++ namespaceEntries name ns ↔
      ∃ metric, e.key = ⟨some name, none, metric⟩ ∧
        namespaceMetric? service name ns metric = some e := by
  rw [mem_namespace_iff]
  constructor
  · rintro (h | h | h | h | h)
    · obtain ⟨service, -, hclock⟩ := Option.bind_eq_some_iff.1 h
      exact ⟨_, key_of_clockMetric? hclock, by simpa [namespaceMetric?] using h⟩
    · obtain ⟨service, -, hmemory⟩ := Option.bind_eq_some_iff.1 h
      exact ⟨_, key_of_memoryMetric? hmemory, by simpa [namespaceMetric?] using h⟩
    · rcases key_of_availabilityMetric? h with hkey | hkey <;>
        exact ⟨_, hkey, by simpa [namespaceMetric?] using h⟩
    · rcases key_of_storageMetric? h with hkey | hkey <;>
        exact ⟨_, hkey, by simpa [namespaceMetric?] using h⟩
    · exact ⟨_, key_of_namespaceMemoryMetric? h, by simpa [namespaceMetric?] using h⟩
  · rintro ⟨metric, -, h⟩
    unfold namespaceMetric? at h
    split at h
    · exact .inl h
    · split at h
      · exact .inr (.inl h)
      · split at h
        · exact .inr (.inr (.inl h))
        · split at h
          · exact .inr (.inr (.inr (.inl h)))
          · exact .inr (.inr (.inr (.inr h)))

theorem metric_of_mem_setEntries {name set : String} {ofSet : Stats} {e : Entry}
    (h : e ∈ setEntries name set ofSet) : e.metric = "memory_data_bytes" ∨
      e.metric = "device_data_bytes" ∨ e.metric = "objects" := by
  simp only [setEntries, List.mem_append, Option.mem_toList] at h
  rcases h with h | h
  · rcases key_of_setSizeMetric? h with hkey | hkey
    · exact .inl (congrArg Key.metric hkey)
    · exact .inr (.inl (congrArg Key.metric hkey))
  · exact .inr (.inr (congrArg Key.metric (key_of_setCountMetric? h)))

theorem mem_setEntries_iff_setMetric? {name set : String} {ofSet : Stats} {e : Entry} :
    e ∈ setEntries name set ofSet ↔
      ∃ metric, e.key = ⟨some name, some set, metric⟩ ∧
        setMetric? name set ofSet metric = some e := by
  simp only [setEntries, List.mem_append, Option.mem_toList]
  constructor
  · rintro (h | h)
    · rcases key_of_setSizeMetric? h with hkey | hkey <;>
        exact ⟨_, hkey, by simpa [setMetric?] using h⟩
    · exact ⟨_, key_of_setCountMetric? h, by simpa [setMetric?] using h⟩
  · rintro ⟨metric, -, h⟩
    unfold setMetric? at h
    split at h
    · exact .inr h
    · exact .inl h

/-! ### What is evaluated and kept -/

/-- Where an evaluation comes from: a namespace or a set with merged statistics. -/
theorem mem_evaluated_iff {stats : ClusterStats} {node : String} {e : Entry} :
    e ∈ evaluated stats node ↔
      (∃ name ns, stats.namespace? node name = some ns ∧
        e ∈ serviceEntries (stats.serviceStats.data? node) name ns ++ namespaceEntries name ns) ∨
      ∃ name set ofSet, stats.set? node name set = some ofSet ∧ e ∈ setEntries name set ofSet := by
  have hnamespace : ∀ f : String → Stats → List Entry,
      (e ∈ ((stats.namespaces.data? node).getD .empty).fetched.entries.flatMap
          fun ns => f ns.1 ns.2) ↔
        ∃ name ns, stats.namespace? node name = some ns ∧ e ∈ f name ns := by
    intro f
    rw [List.mem_flatMap]
    constructor
    · rintro ⟨⟨name, ns⟩, hns, he⟩
      exact ⟨name, ns, Keyed.mem_entries_fetched_getD_iff.1 hns, he⟩
    · rintro ⟨name, ns, hns, he⟩
      exact ⟨(name, ns), Keyed.mem_entries_fetched_getD_iff.2 hns, he⟩
  have hset : (e ∈ ((stats.sets.data? node).getD .empty).fetched.entries.flatMap
          fun ns => ns.2.fetched.entries.flatMap fun set => setEntries ns.1 set.1 set.2) ↔
        ∃ name set ofSet, stats.set? node name set = some ofSet ∧
          e ∈ setEntries name set ofSet := by
    rw [List.mem_flatMap]
    constructor
    · rintro ⟨⟨name, sets⟩, hsets, he⟩
      obtain ⟨⟨set, ofSet⟩, hofSet, he⟩ := List.mem_flatMap.1 he
      exact ⟨name, set, ofSet, Option.bind_eq_some_iff.2 ⟨sets,
        Keyed.mem_entries_fetched_getD_iff.1 hsets, Keyed.mem_entries_fetched_iff.1 hofSet⟩, he⟩
    · rintro ⟨name, set, ofSet, hofSet, he⟩
      obtain ⟨sets, hsets, hofSet⟩ := Option.bind_eq_some_iff.1 hofSet
      exact ⟨(name, sets), Keyed.mem_entries_fetched_getD_iff.2 hsets,
        List.mem_flatMap.2 ⟨(set, ofSet), Keyed.mem_entries_fetched_iff.2 hofSet, he⟩⟩
  simp only [evaluated, List.mem_append, hset, hnamespace, and_or_left, exists_or]

/-- **An evaluation is found by its key, in the statistics that the key names.** -/
theorem mem_evaluated_iff_evaluation? {stats : ClusterStats} {node : String} {e : Entry} :
    e ∈ evaluated stats node ↔ evaluation? stats node e.key = some e := by
  rw [mem_evaluated_iff]
  constructor
  · rintro (⟨name, ns, hns, he⟩ | ⟨name, set, ofSet, hofSet, he⟩)
    · obtain ⟨metric, hkey, h⟩ := mem_namespace_iff_namespaceMetric?.1 he
      rw [hkey, evaluation?_namespace, hns, Option.bind_some, h]
    · obtain ⟨metric, hkey, h⟩ := mem_setEntries_iff_setMetric?.1 he
      rw [hkey, evaluation?_set, hofSet, Option.bind_some, h]
  · intro h
    obtain ⟨name, hname, -⟩ := Option.bind_eq_some_iff.1 h
    generalize hkey : e.key = key at h hname
    obtain ⟨_, set, metric⟩ := key
    obtain rfl := hname
    cases set with
    | none =>
        rw [evaluation?_namespace] at h
        obtain ⟨ns, hns, h⟩ := Option.bind_eq_some_iff.1 h
        exact .inl ⟨name, ns, hns, mem_namespace_iff_namespaceMetric?.2 ⟨metric, hkey, h⟩⟩
    | some set =>
        rw [evaluation?_set] at h
        obtain ⟨ofSet, hofSet, h⟩ := Option.bind_eq_some_iff.1 h
        exact .inr ⟨name, set, ofSet, hofSet, mem_setEntries_iff_setMetric?.2 ⟨metric, hkey, h⟩⟩

/-- **Every evaluation is kept**, since no other one has its key. -/
theorem mem_entriesOfNode_iff {stats : ClusterStats} {node : String} {e : Entry} :
    e ∈ entriesOfNode stats node ↔ evaluation? stats node e.key = some e := by
  rw [← mem_evaluated_iff_evaluation?]
  constructor
  · exact mem_of_mem_collect
  · intro he
    obtain ⟨kept, hkept, hkey⟩ := List.mem_map.1
      (mem_keys_collect.2 (List.mem_map.2 ⟨e, he, rfl⟩))
    have hsame : some kept = some e := by
      rw [← mem_evaluated_iff_evaluation?.1 (mem_of_mem_collect hkept), hkey,
        mem_evaluated_iff_evaluation?.1 he]
    rwa [← Option.some.inj hsame]

end StopWrites
end ClusterReport
