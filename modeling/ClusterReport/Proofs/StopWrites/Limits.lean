/-
**Limits that are integers.**

Five metrics are compared with an integer that is configured, or with one that is computed from
such an integer, and the others with a share of a total.  Usage and limit are converted to binary
numbers for the comparison, which does not always tell different integers apart, while the entry
shows them as they are.  So a metric may be a cause though its usage is shown below its limit: it is
one exactly where both are rounded to the same number and no flag is down.

Main definitions:

* `ClusterReport.StopWrites.Limit` — the integer that a metric of a node is compared with, and the
  flag that has to agree;
* `ClusterReport.StopWrites.Entry.KeepsTo` — an entry that is a cause only when it reaches its
  limit, and shows that limit;
* `ClusterReport.StopWrites.KeepsLimits` — all entries with limits that are integers do.

Main results:

* `ClusterReport.StopWrites.isCause_ofInt_iff` — when a usage is a cause beside an integer;
* `ClusterReport.StopWrites.exists_limit` — every one of these metrics has a limit;
* `ClusterReport.StopWrites.comparesWith_of_limit` — it is compared with that limit;
* `ClusterReport.StopWrites.keepsTo_of_natAbs_lt` — entries with limits below `2 ^ 53` keep to them;
* `ClusterReport.StopWrites.keepsLimits_iff` — **limits are kept exactly where no usage below its
  limit is rounded to the same number while the flag is up**.
-/

import ClusterReport.Proofs.Binary64.Ratio
import ClusterReport.Proofs.StopWrites.Availability

set_option relaxedAutoImplicit false
set_option autoImplicit false

namespace ClusterReport.StopWrites

/-! ### Comparing with an integer -/

/-- A usage is a cause beside an integer when the integer is not zero, the flag agrees, and the
usage reaches it or is rounded to the same number. -/
theorem isCause_ofInt_iff {usage limit : Int} {flag : Option String} :
    isCause (.ofInt usage) (.ofInt limit) flag = true ↔
      limit ≠ 0 ∧ flag.all saysTrue = true ∧
        (limit ≤ usage ∨ (Binary64.ofInt usage).eq (.ofInt limit) = true) := by
  have hoff : (!(Binary64.ofInt limit).eq (.zero false)) = true ↔ limit ≠ 0 := by
    rw [Bool.not_eq_true', ← Bool.not_eq_true, Binary64.ofInt_eq_zero_iff]
  rw [isCause, Bool.and_eq_true, Bool.and_eq_true, hoff, Binary64.ofInt_ge_ofInt_iff, and_assoc,
    and_congr_right_iff]
  exact fun _ => and_comm

/-- An entry is a cause, and shows a threshold, as the comparison with an integer has it. -/
structure Entry.ComparesWith (e : Entry) (limit : Int) (flag : Option String) : Prop where
  stopsWrites : e.stopsWrites = isCause (.ofInt e.usage) (.ofInt limit) flag
  threshold : e.threshold = if limit = 0 then none else some (.whole limit)

theorem comparesWith_evaluate (metric : String) (usage limit : Int) (flag config : Option String)
    (name : String) (set : Option String) :
    (Entry.evaluate metric usage (.whole limit) flag config name set).ComparesWith limit flag := by
  refine ⟨by rw [Entry.evaluate, Threshold.value], ?_⟩
  have hzero : (Threshold.whole limit).isZero = true ↔ limit = 0 := by
    rw [Threshold.isZero, Threshold.value, Binary64.ofInt_eq_zero_iff]
  simp only [Entry.evaluate, hzero]

/-- What an entry is compared with is shown, so that it is compared with one integer only. -/
theorem Entry.ComparesWith.limit_eq {e : Entry} {limit limit' : Int} {flag flag' : Option String}
    (h : e.ComparesWith limit flag) (h' : e.ComparesWith limit' flag') : limit = limit' := by
  have heq := h.threshold.symm.trans h'.threshold
  split at heq
  case isTrue hzero =>
    split at heq
    case isTrue hzero' => rw [hzero, hzero']
    case isFalse => cases heq
  case isFalse =>
    split at heq
    case isTrue => cases heq
    case isFalse => exact Threshold.whole.inj (Option.some.inj heq)

/-! ### The limits -/

/-- The integer that the metric of a key is compared with at a node, and the server's flag beside
it, if there is one. -/
inductive Limit (stats : ClusterStats) (node : String) : Key → Int → Option String → Prop where
  | clock {name flag : String} {service ns : Stats} {seconds : Int}
      (hservice : stats.serviceStats.data? node = some service)
      (hns : stats.namespace? node name = some ns)
      (hlimit : service.int? "cluster_clock_skew_stop_writes_sec" = some seconds)
      (hflag : ns.text? "clock_skew_stop_writes" = some flag) :
      Limit stats node ⟨some name, none, "cluster_clock_skew_ms"⟩ (clockThreshold ns seconds)
        (some flag)
  | memory {name flag : String} {ns : Stats} {limit : Int}
      (hns : stats.namespace? node name = some ns)
      (hlimit : ns.int? "stop-writes-sys-memory-pct" = some limit)
      (hflag : ns.text? "stop_writes" = some flag) :
      Limit stats node ⟨some name, none, "system_free_mem_pct"⟩ limit (some flag)
  | availability {name flag metric : String} {ns : Stats} {limit : Int}
      (hmetric : metric = "device_avail_pct" ∨ metric = "pmem_avail_pct")
      (hns : stats.namespace? node name = some ns)
      (hlimit : ns.int? "min-avail-pct" = some limit)
      (hflag : ns.text? "stop_writes" = some flag) :
      Limit stats node ⟨some name, none, metric⟩ limit (some flag)
  | size {name set metric : String} {ofSet : Stats} {limit : Int}
      (hmetric : metric = "memory_data_bytes" ∨ metric = "device_data_bytes")
      (hofSet : stats.set? node name set = some ofSet)
      (hlimit : ofSet.int? "stop-writes-size" = some limit) :
      Limit stats node ⟨some name, some set, metric⟩ limit none
  | count {name set : String} {ofSet : Stats} {limit : Int}
      (hofSet : stats.set? node name set = some ofSet)
      (hlimit : ofSet.int? (countLimitKey ofSet) = some limit) :
      Limit stats node ⟨some name, some set, "objects"⟩ limit none

def integerMetrics : List String :=
  ["cluster_clock_skew_ms", "system_free_mem_pct", "device_avail_pct", "pmem_avail_pct",
    "memory_data_bytes", "device_data_bytes", "objects"]

variable {stats : ClusterStats} {node : String}

theorem Limit.metric_mem {key : Key} {limit : Int} {flag : Option String}
    (h : Limit stats node key limit flag) : key.metric ∈ integerMetrics := by
  cases h with
  | clock => simp [integerMetrics]
  | memory => simp [integerMetrics]
  | availability hmetric => rcases hmetric with rfl | rfl <;> simp [integerMetrics]
  | size hmetric => rcases hmetric with rfl | rfl <;> simp [integerMetrics]
  | count => simp [integerMetrics]

theorem Limit.flag_eq_none {key : Key} {limit : Int} {flag : Option String}
    (h : Limit stats node key limit flag) (hset : key.setName.isSome = true) : flag = none := by
  cases h with
  | clock => cases hset
  | memory => cases hset
  | availability => cases hset
  | size => rfl
  | count => rfl

/-! ### One metric after the other -/

section

variable {service ns ofSet : Stats} {name set : String} {e : Entry}

theorem clockMetric?_comparesWith (h : clockMetric? service name ns = some e) :
    ∃ seconds flag, service.int? "cluster_clock_skew_stop_writes_sec" = some seconds ∧
      ns.text? "clock_skew_stop_writes" = some flag ∧
      e.ComparesWith (clockThreshold ns seconds) (some flag) := by
  obtain ⟨usage, seconds, flag, -, hlimit, hflag, rfl⟩ := clockMetric?_eq_some_iff.1 h
  exact ⟨seconds, flag, hlimit, hflag, comparesWith_evaluate ..⟩

theorem memoryMetric?_comparesWith (h : memoryMetric? service name ns = some e) :
    ∃ limit flag, ns.int? "stop-writes-sys-memory-pct" = some limit ∧
      ns.text? "stop_writes" = some flag ∧ e.ComparesWith limit (some flag) := by
  obtain ⟨limit, free, flag, hlimit, -, hflag, rfl⟩ := memoryMetric?_eq_some_iff.1 h
  exact ⟨limit, flag, hlimit, hflag, comparesWith_evaluate ..⟩

theorem availabilityMetric?_comparesWith (h : availabilityMetric? name ns = some e) :
    ∃ limit flag, ns.int? "min-avail-pct" = some limit ∧ ns.text? "stop_writes" = some flag ∧
      e.ComparesWith limit (some flag) := by
  obtain ⟨flag, usage, limit, hflag, -, hlimit, rfl⟩ := availabilityMetric?_eq_some_iff.1 h
  exact ⟨limit, flag, hlimit, hflag, comparesWith_evaluate ..⟩

theorem setSizeMetric?_comparesWith (h : setSizeMetric? name set ofSet = some e) :
    ∃ limit, ofSet.int? "stop-writes-size" = some limit ∧ e.ComparesWith limit none := by
  obtain ⟨usage, limit, -, hlimit, rfl⟩ := setSizeMetric?_eq_some_iff.1 h
  exact ⟨limit, hlimit, comparesWith_evaluate ..⟩

theorem setCountMetric?_comparesWith (h : setCountMetric? name set ofSet = some e) :
    ∃ limit, ofSet.int? (countLimitKey ofSet) = some limit ∧ e.ComparesWith limit none := by
  obtain ⟨usage, limit, -, hlimit, rfl⟩ := setCountMetric?_eq_some_iff.1 h
  exact ⟨limit, hlimit, comparesWith_evaluate ..⟩

end

/-- **Every metric that is compared with an integer has a limit.** -/
theorem exists_limit {e : Entry} (he : e ∈ entriesOfNode stats node)
    (hmetric : e.metric ∈ integerMetrics) : ∃ limit flag, Limit stats node e.key limit flag := by
  rw [mem_entriesOfNode_iff, ← mem_evaluated_iff_evaluation?, mem_evaluated_iff] at he
  rcases he with ⟨name, ns, hns, he⟩ | ⟨name, set, ofSet, hofSet, he⟩
  · rcases mem_namespace_iff.1 he with h | h | h | h | h
    · obtain ⟨service, hservice, h⟩ := Option.bind_eq_some_iff.1 h
      obtain ⟨seconds, flag, hlimit, hflag, -⟩ := clockMetric?_comparesWith h
      refine ⟨clockThreshold ns seconds, some flag, ?_⟩
      rw [key_of_clockMetric? h]
      exact .clock hservice hns hlimit hflag
    · obtain ⟨service, -, h⟩ := Option.bind_eq_some_iff.1 h
      obtain ⟨limit, flag, hlimit, hflag, -⟩ := memoryMetric?_comparesWith h
      refine ⟨limit, some flag, ?_⟩
      rw [key_of_memoryMetric? h]
      exact .memory hns hlimit hflag
    · obtain ⟨limit, flag, hlimit, hflag, -⟩ := availabilityMetric?_comparesWith h
      refine ⟨limit, some flag, ?_⟩
      rcases key_of_availabilityMetric? h with hkey | hkey
      · rw [hkey]
        exact .availability (.inl rfl) hns hlimit hflag
      · rw [hkey]
        exact .availability (.inr rfl) hns hlimit hflag
    -- what is used of a namespace's storage and memory is compared with shares
    · have hname : e.metric = "device_used_bytes" ∨ e.metric = "pmem_used_bytes" :=
        (key_of_storageMetric? h).imp (congrArg Key.metric) (congrArg Key.metric)
      rcases hname with hname | hname <;> exact absurd (hname ▸ hmetric) (by decide)
    · have hname : e.metric = "memory_used_bytes" :=
        congrArg Key.metric (key_of_namespaceMemoryMetric? h)
      exact absurd (hname ▸ hmetric) (by decide)
  · simp only [setEntries, List.mem_append, Option.mem_toList] at he
    rcases he with h | h
    · obtain ⟨limit, hlimit, -⟩ := setSizeMetric?_comparesWith h
      refine ⟨limit, none, ?_⟩
      rcases key_of_setSizeMetric? h with hkey | hkey
      · rw [hkey]
        exact .size (.inl rfl) hofSet hlimit
      · rw [hkey]
        exact .size (.inr rfl) hofSet hlimit
    · obtain ⟨limit, hlimit, -⟩ := setCountMetric?_comparesWith h
      refine ⟨limit, none, ?_⟩
      rw [key_of_setCountMetric? h]
      exact .count hofSet hlimit

/-- **A metric is compared with its limit.** -/
theorem comparesWith_of_limit {e : Entry} (he : e ∈ entriesOfNode stats node) {limit : Int}
    {flag : Option String} (h : Limit stats node e.key limit flag) : e.ComparesWith limit flag := by
  rw [mem_entriesOfNode_iff] at he
  generalize e.key = key at he h
  cases h with
  | clock hservice hns hlimit hflag =>
      rw [evaluation?_namespace, hns, hservice] at he
      obtain ⟨seconds, flag, hlimit', hflag', hcompares⟩ := clockMetric?_comparesWith he
      obtain rfl := Option.some.inj (hlimit.symm.trans hlimit')
      obtain rfl := Option.some.inj (hflag.symm.trans hflag')
      exact hcompares
  | @memory name _ ns _ hns hlimit hflag =>
      rw [evaluation?_namespace, hns, Option.bind_some] at he
      have he : ((stats.serviceStats.data? node).bind fun service =>
        memoryMetric? service name ns) = some e := he
      obtain ⟨service, -, he⟩ := Option.bind_eq_some_iff.1 he
      obtain ⟨limit, flag, hlimit', hflag', hcompares⟩ := memoryMetric?_comparesWith he
      obtain rfl := Option.some.inj (hlimit.symm.trans hlimit')
      obtain rfl := Option.some.inj (hflag.symm.trans hflag')
      exact hcompares
  | @availability name _ metric ns _ hmetric hns hlimit hflag =>
      rw [evaluation?_namespace, hns, Option.bind_some] at he
      have he : availabilityMetric? name ns = some e := by
        rcases hmetric with rfl | rfl <;> exact he
      obtain ⟨limit, flag, hlimit', hflag', hcompares⟩ := availabilityMetric?_comparesWith he
      obtain rfl := Option.some.inj (hlimit.symm.trans hlimit')
      obtain rfl := Option.some.inj (hflag.symm.trans hflag')
      exact hcompares
  | @size name set metric ofSet _ hmetric hofSet hlimit =>
      rw [evaluation?_set, hofSet, Option.bind_some] at he
      have he : setSizeMetric? name set ofSet = some e := by
        rcases hmetric with rfl | rfl <;> exact he
      obtain ⟨limit, hlimit', hcompares⟩ := setSizeMetric?_comparesWith he
      obtain rfl := Option.some.inj (hlimit.symm.trans hlimit')
      exact hcompares
  | count hofSet hlimit =>
      rw [evaluation?_set, hofSet] at he
      obtain ⟨limit, hlimit', hcompares⟩ := setCountMetric?_comparesWith he
      obtain rfl := Option.some.inj (hlimit.symm.trans hlimit')
      exact hcompares

/-! ### Keeping to limits -/

/-- An entry is a cause only when its usage reaches a limit other than zero, an entry of a set
exactly then, and shows the limit unless that is zero. -/
structure Entry.KeepsTo (e : Entry) (limit : Int) : Prop where
  /-- A cause has reached its limit. -/
  reached : e.stopsWrites = true → limit ≠ 0 ∧ limit ≤ e.usage
  /-- A set has no flag, so that reaching the limit is enough. -/
  ofSet : e.setName.isSome = true → limit ≠ 0 → limit ≤ e.usage → e.stopsWrites = true
  /-- The limit is shown, unless it is zero. -/
  threshold : e.threshold = if limit = 0 then none else some (.whole limit)

/-- Every entry about a metric that is compared with an integer keeps to its limit. -/
def KeepsLimits (stats : ClusterStats) : Prop :=
  ∀ node entries, (summary stats).get? node = some entries →
    ∀ e ∈ entries, e.metric ∈ integerMetrics →
      ∃ limit flag, Limit stats node e.key limit flag ∧ e.KeepsTo limit

/-- An entry keeps to its limit unless its usage lies below it, is rounded to the same number, and
no flag is down. -/
theorem keepsTo_iff {e : Entry} (he : e ∈ entriesOfNode stats node) {limit : Int}
    {flag : Option String} (h : Limit stats node e.key limit flag) :
    e.KeepsTo limit ↔ (e.usage < limit → flag.all saysTrue = true →
      (Binary64.ofInt e.usage).eq (.ofInt limit) = false) := by
  have hcompares := comparesWith_of_limit he h
  have hcause := @isCause_ofInt_iff e.usage limit flag
  rw [← hcompares.stopsWrites] at hcause
  constructor
  · intro hkeeps hlt hflag
    by_contra hsame
    rw [Bool.not_eq_false] at hsame
    -- only zero is rounded to zero, and the usage is something else
    have hne : limit ≠ 0 := by
      rintro rfl
      rw [Binary64.ofInt_zero, Binary64.ofInt_eq_zero_iff] at hsame
      exact Int.ne_of_lt hlt hsame
    have hreached := (hkeeps.reached (hcause.2 ⟨hne, hflag, .inr hsame⟩)).2
    omega
  · intro hapart
    refine ⟨fun hstops => ?_, fun hset hne hle => ?_, hcompares.threshold⟩
    · obtain ⟨hne, hflag, hle | hsame⟩ := hcause.1 hstops
      · exact ⟨hne, hle⟩
      · by_cases hle : limit ≤ e.usage
        · exact ⟨hne, hle⟩
        · rw [hapart (Int.not_le.1 hle) hflag] at hsame
          cases hsame
    · have hflag : flag = none := h.flag_eq_none hset
      exact hcause.2 ⟨hne, by rw [hflag]; rfl, .inl hle⟩

/-- **Entries with limits below `2 ^ 53` keep to them.** -/
theorem keepsTo_of_natAbs_lt {e : Entry} (he : e ∈ entriesOfNode stats node) {limit : Int}
    {flag : Option String} (h : Limit stats node e.key limit flag) (hsmall : limit.natAbs < 2 ^ 53) :
    e.KeepsTo limit :=
  (keepsTo_iff he h).2 fun hlt _ => Binary64.ofInt_eq_ofInt_of_lt hlt hsmall

/-- **Limits are kept exactly where no usage below its limit is rounded to the same number while the
flag is up.** -/
theorem keepsLimits_iff (stats : ClusterStats) :
    KeepsLimits stats ↔
      ∀ node entries, (summary stats).get? node = some entries → ∀ e ∈ entries,
        ∀ limit flag, Limit stats node e.key limit flag → e.usage < limit →
          flag.all saysTrue = true → (Binary64.ofInt e.usage).eq (.ofInt limit) = false := by
  constructor
  · intro hkeeps node entries hentries e he limit flag hlimit
    obtain ⟨limit', flag', hlimit', hkept⟩ := hkeeps node entries hentries e he hlimit.metric_mem
    obtain ⟨-, rfl⟩ := get?_summary.1 hentries
    -- the entry shows what it is compared with, so that the two limits are the same
    obtain rfl := (comparesWith_of_limit he hlimit').limit_eq (comparesWith_of_limit he hlimit)
    exact (keepsTo_iff he hlimit).1 hkept
  · intro hapart node entries hentries e he hmetric
    have hall := hapart node entries hentries e he
    obtain ⟨-, rfl⟩ := get?_summary.1 hentries
    obtain ⟨limit, flag, hlimit⟩ := exists_limit he hmetric
    exact ⟨limit, flag, hlimit, (keepsTo_iff he hlimit).2 (hall limit flag hlimit)⟩

/-- A set that has one object less than its limit, where these two are rounded to the same
number. -/
def almostFullSet : ClusterStats where
  setStats := .ofList [("n1", .data (.ofList [("test", .data (.ofList [("demo", .data (.ofList
    [("objects", .str "9007199254740992"), ("stop-writes-count", .str "9007199254740993")]))]))]))]

/-- **A set is a cause of stopped writes with one object less than its limit.** -/
theorem not_keepsLimits_almostFullSet : ¬ KeepsLimits almostFullSet := by
  intro hkeeps
  have hsummary : (summary almostFullSet).get? "n1" = some
      [⟨"objects", 9007199254740992, true, some (.whole 9007199254740993), some "stop-writes-count",
        some "test", some "demo"⟩] := by
    decide +kernel
  obtain ⟨limit, flag, -, hkept⟩ :=
    hkeeps "n1" _ hsummary _ List.mem_cons_self (by simp [integerMetrics])
  obtain ⟨hne, hle⟩ := hkept.reached rfl
  have hlimit := hkept.threshold
  rw [if_neg hne] at hlimit
  obtain rfl := Threshold.whole.inj (Option.some.inj hlimit)
  exact absurd hle (by decide)

end ClusterReport.StopWrites
