/-
**What each metric reads.**

A metric is evaluated where all the attributes that it takes can be read, and its entry is made of
what is read: the usage, what this is compared with, and the server's flag, if there is one.  So the
key of the entry is known from the metric, and two reports in which the attributes read alike have
the same entries.

Main definitions:

* `ClusterReport.StopWrites.availabilityKey`, `storageKeys`, `sizeReading`, `countLimitKey` — what
  is read where there is a choice of attributes;
* `ClusterReport.StopWrites.ReadsAlike` — that some attributes are read alike in two reports;
* `ClusterReport.StopWrites.serviceAttributes`, `namespaceAttributes`, `setAttributes` — the
  attributes that the metrics take.

Main results:

* `ClusterReport.StopWrites.clockMetric?_eq_some_iff` and the like — when a metric is evaluated, and
  what its entry is made of;
* `ClusterReport.StopWrites.key_of_clockMetric?` and the like — the key of its entry;
* `ClusterReport.StopWrites.serviceEntries_congr`, `namespaceEntries_congr`, `setEntries_congr` —
  **no other attribute is read**.
-/

import ClusterReport.StopWrites.Diagnosis

set_option relaxedAutoImplicit false
set_option autoImplicit false

namespace ClusterReport.StopWrites

/-! ### Choices of attributes -/

/-- The attribute that tells the available share: that of persistent memory is asked only where
there is none of devices. -/
def availabilityKey (ns : Stats) : String :=
  if ns.reports "device_avail_pct" then "device_avail_pct" else "pmem_avail_pct"

theorem availabilityKey_eq_or (ns : Stats) :
    availabilityKey ns = "device_avail_pct" ∨ availabilityKey ns = "pmem_avail_pct" := by
  unfold availabilityKey
  split
  · exact .inl rfl
  · exact .inr rfl

/-- The attributes that tell what is used of the storage and how much there is: those of persistent
memory are asked only where there is none of devices. -/
def storageKeys (ns : Stats) : String × String :=
  if ns.reports "device_used_bytes" then ("device_used_bytes", "device_total_bytes")
  else ("pmem_used_bytes", "pmem_total_bytes")

theorem storageKeys_eq_or (ns : Stats) :
    storageKeys ns = ("device_used_bytes", "device_total_bytes") ∨
      storageKeys ns = ("pmem_used_bytes", "pmem_total_bytes") := by
  unfold storageKeys
  split
  · exact .inl rfl
  · exact .inr rfl

/-- The attribute that tells the size of a set, and what it tells: the size on devices is asked
where there is nothing in memory. -/
def sizeReading (ofSet : Stats) : String × Option Int :=
  match (ofSet.int? "memory_data_bytes").filter (· ≠ 0) with
  | some bytes => ("memory_data_bytes", some bytes)
  | none => ("device_data_bytes", ofSet.int? "device_data_bytes")

theorem sizeReading_fst_eq_or (ofSet : Stats) :
    (sizeReading ofSet).1 = "memory_data_bytes" ∨ (sizeReading ofSet).1 = "device_data_bytes" := by
  unfold sizeReading
  split
  · exact .inl rfl
  · exact .inr rfl

/-- The attribute that tells the greatest number of objects in a set, by its new name or the old
one. -/
def countLimitKey (ofSet : Stats) : String :=
  if ofSet.reports "stop-writes-count" then "stop-writes-count" else "set-stop-writes-count"

theorem countLimitKey_eq_or (ofSet : Stats) :
    countLimitKey ofSet = "stop-writes-count" ∨ countLimitKey ofSet = "set-stop-writes-count" := by
  unfold countLimitKey
  split
  · exact .inl rfl
  · exact .inr rfl

/-! ### Entries of metrics -/

section Metrics

variable {service ns ofSet : Stats} {name set : String} {e : Entry}

theorem clockMetric?_eq_some_iff : clockMetric? service name ns = some e ↔
    ∃ usage seconds flag, service.int? "cluster_clock_skew_ms" = some usage ∧
      service.int? "cluster_clock_skew_stop_writes_sec" = some seconds ∧
      ns.text? "clock_skew_stop_writes" = some flag ∧
      .evaluate "cluster_clock_skew_ms" usage (.whole (clockThreshold ns seconds)) (some flag) none
        name none = e := by
  simp only [clockMetric?, Option.bind_eq_bind, Option.bind_eq_some_iff, Option.pure_def,
    Option.some.injEq, exists_and_left]

theorem memoryMetric?_eq_some_iff : memoryMetric? service name ns = some e ↔
    ∃ limit free flag, ns.int? "stop-writes-sys-memory-pct" = some limit ∧
      service.int? "system_free_mem_pct" = some free ∧ ns.text? "stop_writes" = some flag ∧
      .evaluate "system_free_mem_pct" (Integer.wrapInt64 (100 - free)) (.whole limit) (some flag)
        (some "stop-writes-sys-memory-pct") name none = e := by
  simp only [memoryMetric?, Option.bind_eq_bind, Option.bind_eq_some_iff, Option.pure_def,
    Option.some.injEq, exists_and_left]

theorem availabilityMetric?_eq_some_iff : availabilityMetric? name ns = some e ↔
    ∃ flag usage least, ns.text? "stop_writes" = some flag ∧
      ns.int? (availabilityKey ns) = some usage ∧ ns.int? "min-avail-pct" = some least ∧
      .evaluate (availabilityKey ns) usage (.whole least) (some flag) (some "min-avail-pct")
        name none = e := by
  simp only [availabilityMetric?, availabilityKey, Option.bind_eq_bind, Option.bind_eq_some_iff,
    Option.pure_def, Option.some.injEq, exists_and_left]

theorem storageMetric?_eq_some_iff : storageMetric? name ns = some e ↔
    ∃ flag usage percentage total, ns.text? "stop_writes" = some flag ∧
      ns.int? (storageKeys ns).1 = some usage ∧ ns.int? "max-used-pct" = some percentage ∧
      ns.int? (storageKeys ns).2 = some total ∧
      .evaluate (storageKeys ns).1 usage (.ofPercentage total percentage) (some flag)
        (some "max-used-pct") name none = e := by
  simp only [storageMetric?, storageKeys, Option.bind_eq_bind, Option.bind_eq_some_iff,
    Option.pure_def, Option.some.injEq, exists_and_left]

theorem namespaceMemoryMetric?_eq_some_iff : namespaceMemoryMetric? name ns = some e ↔
    ∃ flag usage percentage total, ns.text? "stop_writes" = some flag ∧
      ns.int? "memory_used_bytes" = some usage ∧ ns.int? "stop-writes-pct" = some percentage ∧
      ns.int? "memory-size" = some total ∧
      .evaluate "memory_used_bytes" usage (.ofPercentage total percentage) (some flag)
        (some "stop-writes-pct") name none = e := by
  simp only [namespaceMemoryMetric?, Option.bind_eq_bind, Option.bind_eq_some_iff, Option.pure_def,
    Option.some.injEq, exists_and_left]

theorem setSizeMetric?_eq_some_iff : setSizeMetric? name set ofSet = some e ↔
    ∃ usage limit, (sizeReading ofSet).2 = some usage ∧
      ofSet.int? "stop-writes-size" = some limit ∧
      .evaluate (sizeReading ofSet).1 usage (.whole limit) none (some "stop-writes-size")
        name (some set) = e := by
  simp only [setSizeMetric?, Option.bind_eq_bind, Option.bind_eq_some_iff, Option.pure_def,
    Option.some.injEq, exists_and_left]
  exact Iff.rfl

theorem setCountMetric?_eq_some_iff : setCountMetric? name set ofSet = some e ↔
    ∃ usage limit, ofSet.int? "objects" = some usage ∧
      ofSet.int? (countLimitKey ofSet) = some limit ∧
      .evaluate "objects" usage (.whole limit) none (some (countLimitKey ofSet)) name (some set) =
        e := by
  simp only [setCountMetric?, countLimitKey, Option.bind_eq_bind, Option.bind_eq_some_iff,
    Option.pure_def, Option.some.injEq, exists_and_left]

/-! ### The key of a metric -/

theorem key_evaluate (metric : String) (usage : Int) (threshold : Threshold)
    (flag config : Option String) (name : String) (set : Option String) :
    (Entry.evaluate metric usage threshold flag config name set).key = ⟨some name, set, metric⟩ :=
  rfl

theorem key_of_clockMetric? (h : clockMetric? service name ns = some e) :
    e.key = ⟨some name, none, "cluster_clock_skew_ms"⟩ := by
  obtain ⟨_, _, _, -, -, -, rfl⟩ := clockMetric?_eq_some_iff.1 h
  rfl

theorem key_of_memoryMetric? (h : memoryMetric? service name ns = some e) :
    e.key = ⟨some name, none, "system_free_mem_pct"⟩ := by
  obtain ⟨_, _, _, -, -, -, rfl⟩ := memoryMetric?_eq_some_iff.1 h
  rfl

theorem key_of_availabilityMetric? (h : availabilityMetric? name ns = some e) :
    e.key = ⟨some name, none, "device_avail_pct"⟩ ∨
      e.key = ⟨some name, none, "pmem_avail_pct"⟩ := by
  obtain ⟨_, _, _, -, -, -, rfl⟩ := availabilityMetric?_eq_some_iff.1 h
  rw [key_evaluate]
  exact (availabilityKey_eq_or ns).imp (congrArg _) (congrArg _)

theorem key_of_storageMetric? (h : storageMetric? name ns = some e) :
    e.key = ⟨some name, none, "device_used_bytes"⟩ ∨
      e.key = ⟨some name, none, "pmem_used_bytes"⟩ := by
  obtain ⟨_, _, _, _, -, -, -, -, rfl⟩ := storageMetric?_eq_some_iff.1 h
  rw [key_evaluate]
  exact (storageKeys_eq_or ns).imp (fun h => by rw [h]) fun h => by rw [h]

theorem key_of_namespaceMemoryMetric? (h : namespaceMemoryMetric? name ns = some e) :
    e.key = ⟨some name, none, "memory_used_bytes"⟩ := by
  obtain ⟨_, _, _, _, -, -, -, -, rfl⟩ := namespaceMemoryMetric?_eq_some_iff.1 h
  rfl

theorem key_of_setSizeMetric? (h : setSizeMetric? name set ofSet = some e) :
    e.key = ⟨some name, some set, "memory_data_bytes"⟩ ∨
      e.key = ⟨some name, some set, "device_data_bytes"⟩ := by
  obtain ⟨_, _, -, -, rfl⟩ := setSizeMetric?_eq_some_iff.1 h
  rw [key_evaluate]
  exact (sizeReading_fst_eq_or ofSet).imp (congrArg _) (congrArg _)

theorem key_of_setCountMetric? (h : setCountMetric? name set ofSet = some e) :
    e.key = ⟨some name, some set, "objects"⟩ := by
  obtain ⟨_, _, -, -, rfl⟩ := setCountMetric?_eq_some_iff.1 h
  rfl

end Metrics

/-! ### What is read -/

/-- Two reports in which some attributes are read alike: as integers, as texts, and when it is asked
whether they are there. -/
structure ReadsAlike (keys : List String) (stats other : Stats) : Prop where
  int?_eq : ∀ key ∈ keys, stats.int? key = other.int? key
  text?_eq : ∀ key ∈ keys, stats.text? key = other.text? key
  reports_eq : ∀ key ∈ keys, stats.reports key = other.reports key

/-- Attributes that are the same are read alike. -/
theorem ReadsAlike.of_get?_eq {keys : List String} {stats other : Stats}
    (h : ∀ key ∈ keys, stats.get? key = other.get? key) : ReadsAlike keys stats other where
  int?_eq key hkey := by rw [Stats.int?, Stats.int?, h key hkey]
  text?_eq key hkey := by rw [Stats.text?, Stats.text?, h key hkey]
  reports_eq key hkey := by rw [Stats.reports, Stats.reports, h key hkey]

/-- The attributes of a node that its metrics take. -/
def serviceAttributes : List String :=
  ["cluster_clock_skew_ms", "cluster_clock_skew_stop_writes_sec", "system_free_mem_pct"]

/-- The attributes of a namespace that the metrics of its node and its own take. -/
def namespaceAttributes : List String :=
  ["strong-consistency", "nsup-period", "clock_skew_stop_writes", "stop-writes-sys-memory-pct",
    "stop_writes", "device_avail_pct", "pmem_avail_pct", "min-avail-pct", "device_used_bytes",
    "device_total_bytes", "pmem_used_bytes", "pmem_total_bytes", "max-used-pct",
    "memory_used_bytes", "stop-writes-pct", "memory-size"]

/-- The attributes of a set that its metrics take. -/
def setAttributes : List String :=
  ["memory_data_bytes", "device_data_bytes", "stop-writes-size", "stop-writes-count",
    "set-stop-writes-count", "objects"]

section Congruence

variable {service service' ns ns' ofSet ofSet' : Stats}

theorem availabilityKey_mem (ns : Stats) : availabilityKey ns ∈ namespaceAttributes := by
  rcases availabilityKey_eq_or ns with h | h <;> rw [h] <;> decide

theorem storageKeys_mem (ns : Stats) :
    (storageKeys ns).1 ∈ namespaceAttributes ∧ (storageKeys ns).2 ∈ namespaceAttributes := by
  rcases storageKeys_eq_or ns with h | h <;> rw [h] <;> decide

theorem countLimitKey_mem (ofSet : Stats) : countLimitKey ofSet ∈ setAttributes := by
  rcases countLimitKey_eq_or ofSet with h | h <;> rw [h] <;> decide

/-- The metrics of a node take no other attributes. -/
theorem serviceEntries_congr (hservice : ReadsAlike serviceAttributes service service')
    (hns : ReadsAlike namespaceAttributes ns ns') (name : String) :
    serviceEntries (some service) name ns = serviceEntries (some service') name ns' := by
  have hthreshold : ∀ seconds, clockThreshold ns seconds = clockThreshold ns' seconds := by
    intro seconds
    rw [clockThreshold, clockThreshold, hns.text?_eq "strong-consistency" (by decide),
      hns.text?_eq "nsup-period" (by decide)]
  have hclock : clockMetric? service name ns = clockMetric? service' name ns' := by
    refine Option.ext fun e => ?_
    simp only [clockMetric?_eq_some_iff, hthreshold,
      hservice.int?_eq "cluster_clock_skew_ms" (by decide),
      hservice.int?_eq "cluster_clock_skew_stop_writes_sec" (by decide),
      hns.text?_eq "clock_skew_stop_writes" (by decide)]
  have hmemory : memoryMetric? service name ns = memoryMetric? service' name ns' := by
    refine Option.ext fun e => ?_
    simp only [memoryMetric?_eq_some_iff, hservice.int?_eq "system_free_mem_pct" (by decide),
      hns.int?_eq "stop-writes-sys-memory-pct" (by decide), hns.text?_eq "stop_writes" (by decide)]
  rw [serviceEntries, serviceEntries, hclock, hmemory]

/-- The metrics of a namespace take no other attributes. -/
theorem namespaceEntries_congr (h : ReadsAlike namespaceAttributes ns ns') (name : String) :
    namespaceEntries name ns = namespaceEntries name ns' := by
  have hflag := h.text?_eq "stop_writes" (by decide)
  have havailability : availabilityMetric? name ns = availabilityMetric? name ns' := by
    have hkey : availabilityKey ns = availabilityKey ns' := by
      rw [availabilityKey, availabilityKey, h.reports_eq "device_avail_pct" (by decide)]
    refine Option.ext fun e => ?_
    simp only [availabilityMetric?_eq_some_iff, hflag, hkey, h.int?_eq _ (availabilityKey_mem ns'),
      h.int?_eq "min-avail-pct" (by decide)]
  have hstorage : storageMetric? name ns = storageMetric? name ns' := by
    have hkeys : storageKeys ns = storageKeys ns' := by
      rw [storageKeys, storageKeys, h.reports_eq "device_used_bytes" (by decide)]
    obtain ⟨hused, htotal⟩ := storageKeys_mem ns'
    refine Option.ext fun e => ?_
    simp only [storageMetric?_eq_some_iff, hflag, hkeys, h.int?_eq _ hused, h.int?_eq _ htotal,
      h.int?_eq "max-used-pct" (by decide)]
  have hmemory : namespaceMemoryMetric? name ns = namespaceMemoryMetric? name ns' := by
    refine Option.ext fun e => ?_
    simp only [namespaceMemoryMetric?_eq_some_iff, hflag, h.int?_eq "memory_used_bytes" (by decide),
      h.int?_eq "stop-writes-pct" (by decide), h.int?_eq "memory-size" (by decide)]
  rw [namespaceEntries, namespaceEntries, havailability, hstorage, hmemory]

/-- The metrics of a set take no other attributes. -/
theorem setEntries_congr (h : ReadsAlike setAttributes ofSet ofSet') (name set : String) :
    setEntries name set ofSet = setEntries name set ofSet' := by
  have hsize : setSizeMetric? name set ofSet = setSizeMetric? name set ofSet' := by
    have hreading : sizeReading ofSet = sizeReading ofSet' := by
      rw [sizeReading, sizeReading, h.int?_eq "memory_data_bytes" (by decide),
        h.int?_eq "device_data_bytes" (by decide)]
    refine Option.ext fun e => ?_
    simp only [setSizeMetric?_eq_some_iff, hreading, h.int?_eq "stop-writes-size" (by decide)]
  have hcount : setCountMetric? name set ofSet = setCountMetric? name set ofSet' := by
    have hkey : countLimitKey ofSet = countLimitKey ofSet' := by
      rw [countLimitKey, countLimitKey, h.reports_eq "stop-writes-count" (by decide)]
    refine Option.ext fun e => ?_
    simp only [setCountMetric?_eq_some_iff, hkey, h.int?_eq _ (countLimitKey_mem ofSet'),
      h.int?_eq "objects" (by decide)]
  rw [setEntries, setEntries, hsize, hcount]

end Congruence

end ClusterReport.StopWrites
