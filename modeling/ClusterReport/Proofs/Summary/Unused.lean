/-
**Storage of which nothing is used.**

A usage that is made of reported figures takes the share that is used of the total, and of nothing
every share is zero.  One that is made of the use alone takes the share that is available instead,
and what is left of a hundred percent is used: of nothing all is used then.  Every usage of a
summary belongs to something of which there is some, except the memory of a namespace, which is
filled in whether or not its nodes report how much there is.

Main definitions:

* `ClusterReport.Summary.usages` — the storage figures of a summary;
* `ClusterReport.Summary.ShowsUnused` — that nothing unused is shown as used;
* `ClusterReport.StorageUsage.IsSized` — a usage of something, or one that was never filled in.

Main results:

* `ClusterReport.StorageUsage.IsSized.usedPercent` — of something that is unused nothing is used;
* `ClusterReport.Summary.mem_usages_create` — where the usages of a summary come from;
* `ClusterReport.Summary.showsUnused_create_iff` — **unused storage is shown as unused exactly where
  every namespace whose memory is unused has some**.
-/

import Mathlib.Data.List.ReduceOption
import ClusterReport.Proofs.Binary64.Ratio
import ClusterReport.Proofs.Summary.Namespaces

set_option relaxedAutoImplicit false
set_option autoImplicit false

namespace ClusterReport

/-! ### Shares of a hundred percent -/

namespace StorageUsage

theorem percent_self {total : Int} (hfits : Integer.fitsInt64 total = true) (htotal : total ≠ 0) :
    percent (.ofInt total) total = .ofInt 100 := by
  have hbound : total.natAbs ≤ 2 ^ 70 := by
    rw [Integer.fitsInt64_iff] at hfits
    omega
  have hzero : ¬ (Binary64.ofInt total).eq (.zero false) = true :=
    fun h => htotal ((Binary64.ofInt_eq_zero_iff total).1 h)
  have hhundred : Binary64.ofInt 1 * .ofInt 100 = .ofInt 100 := by decide +kernel
  rw [percent, if_neg htotal, Binary64.div_self (Binary64.atMost_ofInt hbound).1 hzero, hhundred]

theorem percent_ofInt_zero {total : Int} (htotal : 0 < total) :
    percent (.ofInt 0) total = .zero false := by
  have htimes : Binary64.zero false * .ofInt 100 = .zero false := by decide +kernel
  rw [percent, if_neg (Int.ne_of_gt htotal), Binary64.ofInt_zero,
    Binary64.zero_div (Binary64.zero_lt_ofInt htotal), htimes]

theorem usedPercent_ofUsed_zero_zero : (ofUsed 0 0).usedPercent = .ofInt 100 := by decide +kernel

theorem usedPercent_ofUsed_zero {total : Int} (hfits : Integer.fitsInt64 total = true)
    (htotal : total ≠ 0) : (ofUsed total 0).usedPercent = .zero false := by
  have hrest : Binary64.ofInt 100 - .ofInt 100 = .zero false := by decide +kernel
  change Binary64.ofInt 100 - percent (.ofInt (total - 0)) total = _
  rw [Int.sub_zero, percent_self hfits htotal, hrest]

/-- A usage of something, or one that was never filled in. -/
inductive IsSized : StorageUsage → Prop where
  | unset : IsSized {}
  | ofUsed {total : Int} (h : 0 < total) (used : Int) : IsSized (.ofUsed total used)
  | ofReported {total : Int} (h : 0 < total) (used : Int) (available : Binary64) :
      IsSized (.ofReported total used available)

/-- **Of something that is unused nothing is used.** -/
theorem IsSized.usedPercent {u : StorageUsage} (h : u.IsSized)
    (hfits : Integer.fitsInt64 u.total = true) (hused : u.used = 0) :
    u.usedPercent = .zero false := by
  cases h with
  | unset => rfl
  | ofUsed htotal used =>
      obtain rfl : used = 0 := hused
      exact usedPercent_ofUsed_zero hfits (Int.ne_of_gt htotal)
  | ofReported htotal used available =>
      obtain rfl : used = 0 := hused
      exact percent_ofInt_zero htotal

/-- The usage of nothing, made of the use alone, is not that of something. -/
theorem IsSized.ne_ofUsed_zero_zero {u : StorageUsage} (h : u.IsSized) : u ≠ .ofUsed 0 0 := by
  intro heq
  have htotal : u.total = 0 := congrArg total heq
  cases h with
  | unset => exact absurd (congrArg StorageUsage.usedPercent heq) (by decide +kernel)
  | ofUsed hpos used => exact Int.ne_of_gt hpos htotal
  | ofReported hpos used available => exact Int.ne_of_gt hpos htotal

end StorageUsage

/-! ### The usages that are filled in -/

theorem StorageTotal.isSized_of_usage? {t : StorageTotal} {u : StorageUsage}
    (h : t.usage? = some u) : u.IsSized := by
  rw [StorageTotal.usage?] at h
  split at h
  case isTrue hpos =>
    obtain rfl := Option.some.inj h
    exact .ofUsed hpos _
  case isFalse => cases h

theorem NodewiseStorage.isSized_of_usage? {s : NodewiseStorage} {u : StorageUsage}
    (h : s.usage? = some u) : u.IsSized := by
  simp only [NodewiseStorage.usage?] at h
  split at h
  case isTrue => cases h
  case isFalse hpos =>
    obtain rfl := Option.some.inj h
    exact .ofReported (Int.not_le.1 hpos) _ _

theorem isSized_of_indexUsage? {configs nodes : NodeStats} {used : Attribute} {u : StorageUsage}
    (h : indexUsage? configs nodes used = some u) : u.IsSized := by
  simp only [indexUsage?] at h
  split at h
  case isTrue => cases h
  case isFalse hpos =>
    obtain rfl := Option.some.inj h
    exact .ofUsed (Int.not_le.1 hpos) _

/-- The storage figures of a cluster: of its memory, and of the other kinds that it has. -/
def ClusterSummary.usages (c : ClusterSummary) : List StorageUsage :=
  c.memory :: [c.device, c.pmem, c.pmemIndex, c.flashIndex].filterMap id

/-- The storage figures of a namespace: of its memory, and of the other kinds that it has. -/
def NamespaceSummary.usages (ns : NamespaceSummary) : List StorageUsage :=
  ns.memory :: [ns.device, ns.pmem, ns.pmemIndex, ns.flashIndex].filterMap id

theorem ClusterTotals.isSized_of_mem_usages {t : ClusterTotals} {nodeCount : Nat}
    {c : ClusterSummary} (hc : c.HasNoStorage) {u : StorageUsage}
    (hu : u ∈ (t.fill nodeCount c).usages) : u.IsSized := by
  rcases List.mem_cons.1 hu with rfl | hu
  · change (t.memory.usage?.getD c.memory).IsSized
    rw [hc.memory]
    cases husage : t.memory.usage? with
    | none => exact .unset
    | some u => exact StorageTotal.isSized_of_usage? husage
  · have hu := List.reduceOption_mem_iff.1 hu
    change some u ∈ [t.device.usage?, t.pmem.usage?, t.pmemIndex.usage?.or c.pmemIndex,
      t.flashIndex.usage?.or c.flashIndex] at hu
    rw [hc.pmemIndex, hc.flashIndex, Option.or_none, Option.or_none] at hu
    simp only [List.mem_cons, List.not_mem_nil, or_false] at hu
    rcases hu with hdevice | hpmem | hindex | hindex
    · exact NodewiseStorage.isSized_of_usage? hdevice.symm
    · exact NodewiseStorage.isSized_of_usage? hpmem.symm
    · exact StorageTotal.isSized_of_usage? hindex.symm
    · exact StorageTotal.isSized_of_usage? hindex.symm

theorem isSized_of_elim {storage : Option NodewiseStorage} {u : StorageUsage}
    (h : storage.elim none NodewiseStorage.usage? = some u) : u.IsSized := by
  cases storage with
  | none => cases h
  | some s => exact NodewiseStorage.isSized_of_usage? h

theorem isSized_of_ite {kind kind' : IndexType} {configs nodes : NodeStats} {used : Attribute}
    {u : StorageUsage}
    (h : (if kind = kind' then
      (if kind = kind' then indexUsage? configs nodes used else none) else none) = some u) :
    u.IsSized := by
  split at h
  case isTrue => exact isSized_of_indexUsage? h
  case isFalse => cases h

/-- The storage of a namespace, as far as it is filled in, is its memory or storage that there
is. -/
theorem NamespaceFigures.eq_or_isSized_of_mem_usages {configs nodes : NodeStats}
    {license : LicenseUsage} {migrating : Bool} {u : StorageUsage}
    (hu : u ∈ ((ofNodes configs nodes).fill { license, migrating }).usages) :
    u = .ofUsed (totalOf .memorySize nodes) (totalOf .memoryUsedBytes nodes) ∨ u.IsSized := by
  rcases List.mem_cons.1 hu with hmemory | hu
  · exact .inl hmemory
  · have hu := List.reduceOption_mem_iff.1 hu
    simp only [List.mem_cons, List.not_mem_nil, or_false] at hu
    rcases hu with hdevice | hpmem | hindex | hindex
    · exact .inr (isSized_of_elim hdevice.symm)
    · exact .inr (isSized_of_elim hpmem.symm)
    · exact .inr (isSized_of_ite hindex.symm)
    · exact .inr (isSized_of_ite hindex.symm)

/-! ### A summary -/

namespace Summary

/-- The storage figures of a summary, of the cluster and of every namespace. -/
def usages (s : Summary) : List StorageUsage :=
  s.cluster.usages ++ s.namespaces.values.flatMap NamespaceSummary.usages

/-- Nothing that is unused is shown as used. -/
def ShowsUnused (s : Summary) : Prop := ∀ u ∈ s.usages, u.used = 0 → u.usedPercent = .zero false

instance (s : Summary) : Decidable s.ShowsUnused :=
  inferInstanceAs (Decidable (∀ u ∈ s.usages, u.used = 0 → u.usedPercent = .zero false))

section

variable {stats : ClusterStats} {metadata : ClusterMetadata} {agent : Option Json}
  {allowUnstable : Bool}

/-- Where the usages of a summary come from: the memory of a namespace is filled in at any rate, and
all others are of something that there is, or were never filled in. -/
theorem mem_usages_create {u : StorageUsage}
    (hu : u ∈ (create stats metadata agent allowUnstable).usages) :
    (∃ name nodes, (Keyed.flip stats.namespaces).get? name = some nodes ∧
      u = .ofUsed (totalOf .memorySize nodes) (totalOf .memoryUsedBytes nodes)) ∨ u.IsSized := by
  rcases List.mem_append.1 hu with hcluster | hnamespace
  · exact .inr (ClusterTotals.isSized_of_mem_usages
      (hasNoStorage_afterNamespaces stats metadata agent allowUnstable) hcluster)
  · obtain ⟨ns, hns, hu⟩ := List.mem_flatMap.1 hnamespace
    obtain ⟨name, hname⟩ := Dict.mem_values_iff.1 hns
    obtain ⟨nodes, hnodes⟩ := exists_nodes_of_get?_create stats metadata agent allowUnstable hname
    obtain ⟨license, migrating, hfilled⟩ :=
      get?_create stats metadata agent allowUnstable hnodes
    obtain rfl := Option.some.inj (hname.symm.trans hfilled)
    rcases NamespaceFigures.eq_or_isSized_of_mem_usages hu with hmemory | hsized
    · exact .inl ⟨name, nodes, hnodes, hmemory⟩
    · exact .inr hsized

theorem memory_mem_usages_create {name : String} {nodes : NodeStats}
    (h : (Keyed.flip stats.namespaces).get? name = some nodes) :
    StorageUsage.ofUsed (totalOf .memorySize nodes) (totalOf .memoryUsedBytes nodes) ∈
      (create stats metadata agent allowUnstable).usages := by
  obtain ⟨license, migrating, hfilled⟩ := get?_create stats metadata agent allowUnstable h
  refine List.mem_append_right _ (List.mem_flatMap.2 ⟨_, Dict.mem_values_iff.2 ⟨name, hfilled⟩, ?_⟩)
  exact List.mem_cons_self

end

/-- **Unused storage is shown as unused exactly where every namespace whose memory is unused has
some**; where it is not, it is the memory of a namespace without any, and shown as used up.  The
totals are integers of 64 bits. -/
theorem showsUnused_create_iff (stats : ClusterStats) (metadata : ClusterMetadata)
    (agent : Option Json) (allowUnstable : Bool)
    (hfits : ∀ u ∈ (create stats metadata agent allowUnstable).usages,
      Integer.fitsInt64 u.total = true) :
    ((create stats metadata agent allowUnstable).ShowsUnused ↔
      ∀ name nodes, (Keyed.flip stats.namespaces).get? name = some nodes →
        totalOf .memoryUsedBytes nodes = 0 → totalOf .memorySize nodes ≠ 0) ∧
    ∀ u ∈ (create stats metadata agent allowUnstable).usages, u.used = 0 →
      u.usedPercent = if u = .ofUsed 0 0 then .ofInt 100 else .zero false := by
  have hshown : ∀ u ∈ (create stats metadata agent allowUnstable).usages, u.used = 0 →
      u.usedPercent = if u = .ofUsed 0 0 then .ofInt 100 else .zero false := by
    intro u hu hused
    split
    case isTrue heq => rw [heq, StorageUsage.usedPercent_ofUsed_zero_zero]
    case isFalse hne =>
      rcases mem_usages_create hu with ⟨name, nodes, -, rfl⟩ | hsized
      · rw [StorageUsage.used_ofUsed] at hused
        rw [hused] at hne ⊢
        exact StorageUsage.usedPercent_ofUsed_zero (hfits _ hu) fun htotal => hne (by rw [htotal])
      · exact hsized.usedPercent (hfits _ hu) hused
  refine ⟨⟨fun hunused name nodes hnodes hused htotal => ?_, fun hroom u hu hused => ?_⟩, hshown⟩
  · -- the memory of that namespace would be shown as used up
    have hmemory := hunused _ (memory_mem_usages_create hnodes) hused
    rw [hused, htotal, StorageUsage.usedPercent_ofUsed_zero_zero] at hmemory
    exact absurd hmemory (by decide +kernel)
  · have hne : u ≠ .ofUsed 0 0 := by
      rcases mem_usages_create hu with ⟨name, nodes, hnodes, rfl⟩ | hsized
      · intro heq
        exact hroom name nodes hnodes hused (congrArg StorageUsage.total heq)
      · exact hsized.ne_ofUsed_zero_zero
    rw [hshown u hu hused, if_neg hne]

/-- A cluster with a namespace whose memory is unused, on a node that says how much there is. -/
def unusedMemory : ClusterStats where
  namespaceStats := .ofList [("n1", .data (.ofList [("test", .data (.ofList
    [("memory-size", .str "1000"), ("memory_used_bytes", .str "0")]))]))]

theorem showsUnused_create_unusedMemory :
    (∀ u ∈ (create unusedMemory {} none false).usages, Integer.fitsInt64 u.total = true) ∧
      (create unusedMemory {} none false).ShowsUnused := by
  have hfits : ∀ u ∈ (create unusedMemory {} none false).usages,
      Integer.fitsInt64 u.total = true := by decide +kernel
  have hroom : ∀ e ∈ (Keyed.flip unusedMemory.namespaces).entries,
      totalOf .memoryUsedBytes e.2 = 0 → totalOf .memorySize e.2 ≠ 0 := by decide +kernel
  exact ⟨hfits, (showsUnused_create_iff unusedMemory {} none false hfits).1.2
    fun name nodes hnodes => hroom (name, nodes) (Dict.mem_entries_iff.2 hnodes)⟩

/-- A cluster with a namespace on a node that says nothing about memory. -/
def unknownMemory : ClusterStats where
  namespaceStats := .ofList [("n1", .data (.ofList [("test", .data (.ofList
    [("objects", .str "1")]))]))]

/-- **Memory of which nothing is used is shown as used up** where no node says how much there is. -/
theorem not_showsUnused_create_unknownMemory :
    ¬ (create unknownMemory {} none false).ShowsUnused := by decide +kernel

end Summary
end ClusterReport
