/-
**Available storage as a cause of stopped writes.**

The share of the storage that a namespace can still write to is a metric of which little is bad,
and it is compared with its least share as the metrics of which much is bad are with their
thresholds: it is a cause when it reaches it.  Where more than the least share is available, the
entry is a cause exactly when the server's flag says that writes are stopped, whatever they were
stopped for, and the least share is not switched off.

Main definitions:

* `ClusterReport.StopWrites.Entry.IsAvailability` — the entries about available storage;
* `ClusterReport.StopWrites.Availability` — what a namespace reports of it;
* `ClusterReport.StopWrites.SparesPlentifulSpace` — no plentiful space is a cause.

Main results:

* `ClusterReport.StopWrites.mem_entriesOfNode_availability_iff` — a node's entries about available
  storage are those of its namespaces that report it;
* `ClusterReport.StopWrites.stopsWrites_availabilityEntry_iff` — when plentiful space is a cause;
* `ClusterReport.StopWrites.sparesPlentifulSpace_iff` — **plentiful space is spared exactly where
  no flag is up beside it**;
* `ClusterReport.StopWrites.not_sparesPlentifulSpace_halfAvailable` — half of the storage counts
  as a cause beside a least share of a twentieth.
-/

import ClusterReport.Proofs.Binary64.Rounding
import ClusterReport.Proofs.StopWrites.Entries

set_option relaxedAutoImplicit false
set_option autoImplicit false

namespace ClusterReport.StopWrites

/-! ### Entries about available storage -/

/-- Whether an entry is about the share of the storage that can still be written to. -/
def Entry.IsAvailability (e : Entry) : Prop :=
  e.metric = "device_avail_pct" ∨ e.metric = "pmem_avail_pct"

/-- What a namespace reports of its available storage: the server's flag, the share that is
available, and the least share. -/
structure Availability (ns : Stats) (flag : String) (usage least : Int) : Prop where
  flag_eq : ns.text? "stop_writes" = some flag
  usage_eq : ns.int? (availabilityKey ns) = some usage
  least_eq : ns.int? "min-avail-pct" = some least

/-- The entry of a namespace that reports its available storage. -/
def availabilityEntry (name : String) (ns : Stats) (flag : String) (usage least : Int) : Entry :=
  .evaluate (availabilityKey ns) usage (.whole least) (some flag) (some "min-avail-pct") name none

theorem isAvailability_availabilityEntry (name : String) (ns : Stats) (flag : String)
    (usage least : Int) : (availabilityEntry name ns flag usage least).IsAvailability :=
  availabilityKey_eq_or ns

theorem availabilityMetric?_eq_some_iff_reports {name : String} {ns : Stats} {e : Entry} :
    availabilityMetric? name ns = some e ↔ ∃ flag usage least, Availability ns flag usage least ∧
      e = availabilityEntry name ns flag usage least := by
  rw [availabilityMetric?_eq_some_iff]
  constructor
  · rintro ⟨flag, usage, least, hflag, husage, hleast, rfl⟩
    exact ⟨flag, usage, least, ⟨hflag, husage, hleast⟩, rfl⟩
  · rintro ⟨flag, usage, least, ⟨hflag, husage, hleast⟩, rfl⟩
    exact ⟨flag, usage, least, hflag, husage, hleast, rfl⟩

/-- **A node's entries about available storage are those of its namespaces that report it.** -/
theorem mem_entriesOfNode_availability_iff {stats : ClusterStats} {node : String} {e : Entry} :
    e ∈ entriesOfNode stats node ∧ e.IsAvailability ↔
      ∃ name ns flag usage least, stats.namespace? node name = some ns ∧
        Availability ns flag usage least ∧ e = availabilityEntry name ns flag usage least := by
  rw [mem_entriesOfNode_iff, ← mem_evaluated_iff_evaluation?, mem_evaluated_iff]
  constructor
  · rintro ⟨⟨name, ns, hns, he⟩ | ⟨name, set, ofSet, -, he⟩, havailability⟩
    · obtain ⟨metric, hkey, h⟩ := mem_namespace_iff_namespaceMetric?.1 he
      have hmetric : e.metric = metric := congrArg Key.metric hkey
      have hfound : availabilityMetric? name ns = some e := by
        rw [← hmetric] at h
        rcases havailability with hname | hname <;> simpa [hname, namespaceMetric?] using h
      obtain ⟨flag, usage, least, hreports, rfl⟩ := availabilityMetric?_eq_some_iff_reports.1 hfound
      exact ⟨name, ns, flag, usage, least, hns, hreports, rfl⟩
    · -- the metrics of a set have other names
      rcases metric_of_mem_setEntries he with h | h | h <;>
        simp [Entry.IsAvailability, h] at havailability
  · rintro ⟨name, ns, flag, usage, least, hns, hreports, rfl⟩
    have hfound : availabilityMetric? name ns = some _ :=
      availabilityMetric?_eq_some_iff_reports.2 ⟨flag, usage, least, hreports, rfl⟩
    exact ⟨.inl ⟨name, ns, hns, mem_namespace_iff.2 (.inr (.inr (.inl hfound)))⟩,
      isAvailability_availabilityEntry name ns flag usage least⟩

/-! ### When it is a cause -/

/-- Plentiful space is a cause when the flag says that writes are stopped, unless the least share
is switched off. -/
theorem stopsWrites_availabilityEntry_iff {name : String} {ns : Stats} {flag : String}
    {usage least : Int} (h : least < usage) :
    (availabilityEntry name ns flag usage least).stopsWrites = true ↔
      least ≠ 0 ∧ saysTrue flag = true := by
  have hreached := Binary64.ofInt_ge_ofInt (Int.le_of_lt h)
  have hoff := Binary64.ofInt_eq_zero_iff least
  simp only [availabilityEntry, Entry.evaluate, Threshold.value, isCause, Option.all_some,
    Bool.and_eq_true, Bool.not_eq_true', hreached, and_true]
  rw [← Bool.not_eq_true, hoff]

/-- Plentiful space is no cause when the least share is switched off or the flag is down. -/
theorem stopsWrites_availabilityEntry_eq_false_iff {name : String} {ns : Stats} {flag : String}
    {usage least : Int} (h : least < usage) :
    (availabilityEntry name ns flag usage least).stopsWrites = false ↔
      least = 0 ∨ saysTrue flag = false := by
  rw [← Bool.not_eq_true, stopsWrites_availabilityEntry_iff h, Decidable.not_and_iff_not_or_not,
    Decidable.not_not, Bool.not_eq_true]

/-- Whether no plentiful space is a cause: no entry about available storage stops writes where more
is available than the least share of its namespace. -/
def SparesPlentifulSpace (stats : ClusterStats) : Prop :=
  ∀ node entries, (summary stats).get? node = some entries →
    ∀ e ∈ entries, e.IsAvailability →
      ∀ name ns least, e.namespaceName = some name → stats.namespace? node name = some ns →
        ns.int? "min-avail-pct" = some least → least < e.usage → e.stopsWrites = false

/-- **Plentiful space is spared exactly where no flag is up beside it**, a least share that is
switched off apart. -/
theorem sparesPlentifulSpace_iff (stats : ClusterStats) :
    SparesPlentifulSpace stats ↔
      ∀ node name ns flag usage least, stats.namespace? node name = some ns →
        Availability ns flag usage least → least < usage →
          least = 0 ∨ saysTrue flag = false := by
  constructor
  · intro hspares node name ns flag usage least hns hreports hlt
    have hentry := mem_entriesOfNode_availability_iff.2
      ⟨name, ns, flag, usage, least, hns, hreports, rfl⟩
    exact (stopsWrites_availabilityEntry_eq_false_iff hlt).1 (hspares node _
      (get?_summary.2 ⟨mem_nodes_of_namespace? hns, rfl⟩) _ hentry.1 hentry.2 name ns least rfl hns
      hreports.least_eq hlt)
  · intro hquiet node entries hentries e he havailability name ns least hname hns hleast hlt
    obtain ⟨-, rfl⟩ := get?_summary.1 hentries
    obtain ⟨name', ns', flag, usage, least', hns', hreports, rfl⟩ :=
      mem_entriesOfNode_availability_iff.1 ⟨he, havailability⟩
    -- the entry's namespace is the one that is named, and so is its least share
    obtain rfl : name' = name := Option.some.inj hname
    obtain rfl : ns' = ns := Option.some.inj (hns'.symm.trans hns)
    obtain rfl : least' = least := Option.some.inj (hreports.least_eq.symm.trans hleast)
    exact (stopsWrites_availabilityEntry_eq_false_iff hlt).2
      (hquiet node name' ns' flag usage least' hns hreports hlt)

/-- A namespace that can still write to half of its storage, and has to keep a twentieth, with the
flag up. -/
def halfAvailable : ClusterStats where
  namespaceStats := .ofList [("n1", .data (.ofList [("test", .data (.ofList
    [("stop_writes", .str "true"), ("device_avail_pct", .str "50")]))]))]
  namespaceConfigs := .ofList [("n1", .data (.ofList [("test", .data (.ofList
    [("min-avail-pct", .str "5")]))]))]

/-- **Half of the storage is a cause beside a least share of a twentieth.** -/
theorem not_sparesPlentifulSpace_halfAvailable : ¬ SparesPlentifulSpace halfAvailable := by
  intro hspares
  have hsummary : (summary halfAvailable).get? "n1" = some
      [⟨"device_avail_pct", 50, true, some (.whole 5), some "min-avail-pct", some "test", none⟩] := by
    decide +kernel
  have hnamespace : ((halfAvailable.namespace? "n1" "test").bind fun ns =>
      ns.int? "min-avail-pct") = some 5 := by
    decide +kernel
  obtain ⟨ns, hns, hleast⟩ := Option.bind_eq_some_iff.1 hnamespace
  have hfalse := hspares "n1" _ hsummary _ List.mem_cons_self (.inl rfl) "test" ns 5 rfl hns hleast
    (by decide)
  exact Bool.noConfusion hfalse

end ClusterReport.StopWrites
