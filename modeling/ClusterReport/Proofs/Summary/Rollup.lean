/-
**What the cluster's figures have to do with those of its namespaces.**

The summary of a cluster is filled in namespace by namespace: the figures of each one are written
into its own summary, and added to totals that are kept beside.  What the totals hold is at any time
what the summaries of the namespaces add up to, since a namespace that is still to come counts
nothing.  In the end the cluster's figures are made of the totals, and so they are the figures of
the namespaces rolled up.

Main definitions:

* `ClusterReport.StorageUsage.IsSumOf` — that a usage is made up of others;
* `ClusterReport.Summary.RollsUp` — that the cluster's figures are those of the namespaces
  rolled up;
* `ClusterReport.Rollup.Adds` — what adding one namespace after the other keeps true;
* `ClusterReport.Summary.IsReady` — what is true before the first one is added.

Main results:

* `ClusterReport.Rollup.Adds.addNamespace` — one more namespace keeps it true;
* `ClusterReport.Rollup.Adds.rollsUp` — what is true when all have been added;
* `ClusterReport.Summary.IsReady.fillLicenses`, `markMigration`, `identify` — the steps before the
  first one is added;
* `ClusterReport.Summary.rollsUp_create` — **the cluster's figures are those of the namespaces
  rolled up**.
-/

import ClusterReport.Proofs.Dict.Lookup
import ClusterReport.Proofs.Dict.Tally
import ClusterReport.Proofs.Fetched.Flip
import ClusterReport.Proofs.Summary.Licenses
import Mathlib.Algebra.Order.Group.Int

set_option relaxedAutoImplicit false
set_option autoImplicit false

namespace ClusterReport

/-! ### Figures rolled up -/

/-- A usage is made up of some others: its figures in bytes are the sums of theirs. -/
structure StorageUsage.IsSumOf (whole : StorageUsage) (parts : List StorageUsage) : Prop where
  total : whole.total = Integer.sum (parts.map (·.total))
  used : whole.used = Integer.sum (parts.map (·.used))
  available : whole.available = Integer.sum (parts.map (·.available))

/-- A usage is there exactly when some others are, and is made up of them. -/
structure StorageUsage.IsRollupOf (whole : Option StorageUsage) (parts : List StorageUsage) :
    Prop where
  isSome_iff : whole.isSome ↔ parts ≠ []
  isSumOf : ∀ usage, whole = some usage → usage.IsSumOf parts

/-- The cluster's figures are those of the namespaces rolled up. -/
structure Summary.RollsUp (s : Summary) : Prop where
  namespaceCount : s.cluster.namespaceCount = s.namespaces.size
  activeNamespaces : s.cluster.activeNamespaces =
    (s.namespaces.values.filter fun ns => 0 < ns.masterObjects).length
  devices : s.cluster.devices = Integer.sum (s.namespaces.values.map (·.devices))
  migrating : s.cluster.migrating = s.namespaces.values.any (·.migrating)
  memory : 0 < Integer.sum (s.namespaces.values.map (·.memory.total)) →
    s.cluster.memory.IsSumOf (s.namespaces.values.map (·.memory))
  pmemIndex : StorageUsage.IsRollupOf s.cluster.pmemIndex
    (s.namespaces.values.filterMap (·.pmemIndex))
  flashIndex : StorageUsage.IsRollupOf s.cluster.flashIndex
    (s.namespaces.values.filterMap (·.flashIndex))

/-! ### Sums over namespaces -/

theorem sum_map_filterMap {α β : Type} (f : α → Option β) (g : β → Int) (xs : List α) :
    ((xs.filterMap f).map g).sum = (xs.map fun x => (f x).elim 0 g).sum := by
  induction xs with
  | nil => rfl
  | cons x rest ih =>
      rw [List.map_cons, List.sum_cons, ← ih]
      cases hx : f x with
      | none => rw [List.filterMap_cons_none hx, Option.elim_none, zero_add]
      | some y => rw [List.filterMap_cons_some hx, List.map_cons, List.sum_cons, Option.elim_some]

theorem length_filter_eq_sum {α : Type} (p : α → Bool) (xs : List α) :
    (xs.filter p).length = (xs.map fun x => if p x then 1 else 0).sum := by
  induction xs with
  | nil => rfl
  | cons x rest ih =>
      rw [List.map_cons, List.sum_cons, ← ih]
      cases hx : p x with
      | false => rw [List.filter_cons_of_neg (by simp [hx])]; simp
      | true => rw [List.filter_cons_of_pos hx, List.length_cons]; simp [add_comm]

/-- A total is what some usages add up to. -/
structure StorageTotal.IsOf (t : StorageTotal) (parts : List StorageUsage) : Prop where
  total : t.total = (parts.map (·.total)).sum
  available : t.available = (parts.map (·.available)).sum

/-- A usage that counts nothing. -/
def IsNothing (usage : Option StorageUsage) : Prop :=
  usage.elim 0 StorageUsage.total = 0 ∧ usage.elim 0 StorageUsage.available = 0

theorem StorageTotal.IsOf.insert {t : StorageTotal} {namespaces : Dict NamespaceSummary}
    {usage : NamespaceSummary → Option StorageUsage}
    (h : t.IsOf (namespaces.values.filterMap usage)) {name : String} {old : NamespaceSummary}
    (hold : namespaces.get? name = some old) (hnothing : IsNothing (usage old))
    (new : NamespaceSummary) :
    ((usage new).elim t t.add).IsOf ((namespaces.insert name new).values.filterMap usage) := by
  have hsum (g : StorageUsage → Int) (hg : (usage old).elim 0 g = 0) :
      (((namespaces.insert name new).values.filterMap usage).map g).sum =
        ((namespaces.values.filterMap usage).map g).sum + (usage new).elim 0 g := by
    rw [sum_map_filterMap, sum_map_filterMap,
      ← Dict.sum_map_values_insert namespaces hold new fun ns => (usage ns).elim 0 g, hg, add_zero]
  constructor
  · rw [hsum _ hnothing.1, ← h.total]
    cases usage new with
    | none => exact (add_zero _).symm
    | some u => rfl
  · rw [hsum _ hnothing.2, ← h.available]
    cases usage new with
    | none => exact (add_zero _).symm
    | some u => rfl

/-- A usage whose parts make up the whole. -/
def StorageUsage.IsComplete (u : StorageUsage) : Prop := u.used + u.available = u.total

theorem StorageUsage.isComplete_ofUsed (total used : Int) : (ofUsed total used).IsComplete := by
  change used + (total - used) = total
  omega

theorem StorageTotal.IsOf.sum_used {t : StorageTotal} {parts : List StorageUsage}
    (h : t.IsOf parts) (hcomplete : ∀ u ∈ parts, u.IsComplete) :
    (parts.map (·.used)).sum = t.total - t.available := by
  have hsum : (parts.map (·.used)).sum + (parts.map (·.available)).sum =
      (parts.map (·.total)).sum := by
    clear h
    induction parts with
    | nil => rfl
    | cons u rest ih =>
        obtain ⟨hu, hrest⟩ := List.forall_mem_cons.1 hcomplete
        have ih := ih hrest
        simp only [List.map_cons, List.sum_cons]
        unfold StorageUsage.IsComplete at hu
        omega
  rw [h.total, h.available]
  omega

theorem StorageTotal.IsOf.isSumOf_usage? {t : StorageTotal} {parts : List StorageUsage}
    (h : t.IsOf parts) (hcomplete : ∀ u ∈ parts, u.IsComplete) {usage : StorageUsage}
    (husage : t.usage? = some usage) : usage.IsSumOf parts := by
  rw [StorageTotal.usage?] at husage
  split at husage
  · obtain rfl := Option.some.inj husage
    refine ⟨?_, ?_, ?_⟩
    · rw [Integer.sum_eq_sum, ← h.total]
      rfl
    · rw [Integer.sum_eq_sum, h.sum_used hcomplete]
      rfl
    · rw [Integer.sum_eq_sum, ← h.available]
      change t.total - (t.total - t.available) = t.available
      omega
  · cases husage

/-- The usage of a total of usages that each have something to use. -/
theorem StorageTotal.IsOf.isRollupOf_usage? {t : StorageTotal} {parts : List StorageUsage}
    (h : t.IsOf parts) (hparts : ∀ u ∈ parts, 0 < u.total ∧ u.IsComplete) :
    StorageUsage.IsRollupOf t.usage? parts where
  isSome_iff := by
    have htotal : 0 < t.total ↔ parts ≠ [] := by
      rw [h.total]
      constructor
      · rintro hlt rfl
        exact absurd hlt (lt_irrefl _)
      · intro hne
        refine List.sum_pos _ (fun x hx => ?_) (by simpa using hne)
        obtain ⟨u, hu, rfl⟩ := List.mem_map.1 hx
        exact (hparts u hu).1
    rw [← htotal, StorageTotal.usage?]
    by_cases hlt : 0 < t.total <;> simp [hlt]
  isSumOf _ husage := h.isSumOf_usage? (fun u hu => (hparts u hu).2) husage

/-! ### Figures of one namespace -/

/-- The summary of a namespace has none of the figures that are added up. -/
structure NamespaceSummary.IsBlank (ns : NamespaceSummary) : Prop where
  devices : ns.devices = 0
  masterObjects : ns.masterObjects = 0
  memory : ns.memory = {}
  pmemIndex : ns.pmemIndex = none
  flashIndex : ns.flashIndex = none

/-- The figures of a namespace can be added up: no count is negative, and the usages are
complete. -/
structure NamespaceSummary.IsSound (ns : NamespaceSummary) : Prop where
  devices : 0 ≤ ns.devices
  memory : ns.memory.IsComplete
  pmemIndex : ∀ u, ns.pmemIndex = some u → 0 < u.total ∧ u.IsComplete
  flashIndex : ∀ u, ns.flashIndex = some u → 0 < u.total ∧ u.IsComplete

theorem NamespaceSummary.IsBlank.isSound {ns : NamespaceSummary} (h : ns.IsBlank) :
    ns.IsSound where
  devices := le_of_eq h.devices.symm
  memory := by rw [h.memory]; rfl
  pmemIndex u hu := by rw [h.pmemIndex] at hu; cases hu
  flashIndex u hu := by rw [h.flashIndex] at hu; cases hu

theorem deviceCount_nonneg (stats : Stats) : 0 ≤ deviceCount stats := by
  rw [deviceCount, Integer.sum_eq_sum]
  refine List.sum_nonneg fun n hn => ?_
  obtain ⟨e, -, rfl⟩ := List.mem_map.1 hn
  exact Int.natCast_nonneg _

theorem indexUsage?_eq_some {configs nodes : NodeStats} {used : Attribute} {u : StorageUsage}
    (h : indexUsage? configs nodes used = some u) : 0 < u.total ∧ u.IsComplete := by
  rw [indexUsage?] at h
  split at h
  · cases h
  · rename_i hsize
    obtain rfl := Option.some.inj h
    exact ⟨not_le.1 hsize, StorageUsage.isComplete_ofUsed _ _⟩

namespace NamespaceFigures

/-- The figures of a namespace can be written and added up: the devices are counted, and an index
has the kind of the namespace. -/
structure IsSound (f : NamespaceFigures) : Prop where
  devices : 0 ≤ f.deviceTotal
  pmemIndex : ∀ u, f.pmemIndex = some u → f.indexType = .pmem ∧ 0 < u.total ∧ u.IsComplete
  flashIndex : ∀ u, f.flashIndex = some u → f.indexType = .flash ∧ 0 < u.total ∧ u.IsComplete

theorem isSound_ofNodes (configs nodes : NodeStats) : (ofNodes configs nodes).IsSound where
  devices := by
    rw [deviceTotal, Integer.sum_eq_sum]
    refine List.sum_nonneg fun n hn => ?_
    obtain ⟨e, he, rfl⟩ := List.mem_map.1 hn
    obtain ⟨e, -, rfl⟩ := List.mem_map.1 he
    exact deviceCount_nonneg e.2
  pmemIndex u hu := by
    change (if (ofNodes configs nodes).indexType = .pmem then _ else _) = _ at hu
    split at hu
    · exact ⟨‹_›, indexUsage?_eq_some hu⟩
    · cases hu
  flashIndex u hu := by
    change (if (ofNodes configs nodes).indexType = .flash then _ else _) = _ at hu
    split at hu
    · exact ⟨‹_›, indexUsage?_eq_some hu⟩
    · cases hu

variable {f : NamespaceFigures} {ns : NamespaceSummary}

theorem devices_fill (hf : f.IsSound) (hns : ns.IsBlank) : (f.fill ns).devices = f.deviceTotal := by
  have hnonneg := hf.devices
  change (if 0 < f.deviceTotal then f.deviceTotal else ns.devices) = f.deviceTotal
  rw [hns.devices]
  split <;> omega

theorem masterObjects_fill_pos_iff (hns : ns.IsBlank) :
    0 < (f.fill ns).masterObjects ↔ 0 < f.masterObjects := by
  change 0 < (if 0 < f.masterObjects then f.masterObjects else ns.masterObjects) ↔ _
  rw [hns.masterObjects]
  split <;> omega

/-- An index is written whole where it is written for its own kind only. -/
theorem index_of_kind {kind : IndexType} {index : Option StorageUsage}
    (h : ∀ u, index = some u → f.indexType = kind) :
    (if f.indexType = kind then index else none) = index := by
  split
  · rfl
  · rename_i hkind
    exact (Option.eq_none_iff_forall_ne_some.2 fun u hu => hkind (h u hu)).symm

theorem pmemIndex_fill (hf : f.IsSound) (hns : ns.IsBlank) :
    (f.fill ns).pmemIndex = f.pmemIndex := by
  change (if f.indexType = .pmem then f.pmemIndex else ns.pmemIndex) = f.pmemIndex
  rw [hns.pmemIndex]
  exact index_of_kind fun u hu => (hf.pmemIndex u hu).1

theorem flashIndex_fill (hf : f.IsSound) (hns : ns.IsBlank) :
    (f.fill ns).flashIndex = f.flashIndex := by
  change (if f.indexType = .flash then f.flashIndex else ns.flashIndex) = f.flashIndex
  rw [hns.flashIndex]
  exact index_of_kind fun u hu => (hf.flashIndex u hu).1

theorem isSound_fill (hf : f.IsSound) (hns : ns.IsBlank) : (f.fill ns).IsSound where
  devices := by
    rw [devices_fill hf hns]
    exact hf.devices
  memory := StorageUsage.isComplete_ofUsed _ _
  pmemIndex u hu := (hf.pmemIndex u ((pmemIndex_fill hf hns).symm.trans hu)).2
  flashIndex u hu := (hf.flashIndex u ((flashIndex_fill hf hns).symm.trans hu)).2

variable {namespaces : Dict NamespaceSummary} {name : String}

theorem sum_devices_insert (hf : f.IsSound) (hname : namespaces.get? name = some ns)
    (hns : ns.IsBlank) :
    ((namespaces.insert name (f.fill ns)).values.map (·.devices)).sum =
      (namespaces.values.map (·.devices)).sum + f.deviceTotal := by
  have hsum := Dict.sum_map_values_insert namespaces hname (f.fill ns) (·.devices)
  rwa [devices_fill hf hns, hns.devices, add_zero] at hsum

theorem length_active_insert (f : NamespaceFigures) (hname : namespaces.get? name = some ns)
    (hns : ns.IsBlank) :
    ((namespaces.insert name (f.fill ns)).values.filter fun ns => 0 < ns.masterObjects).length =
      (namespaces.values.filter fun ns => 0 < ns.masterObjects).length +
        if 0 < f.masterObjects then 1 else 0 := by
  have hsum := Dict.sum_map_values_insert namespaces hname (f.fill ns)
    fun ns => if decide (0 < ns.masterObjects) then 1 else 0
  rw [length_filter_eq_sum, length_filter_eq_sum]
  simpa only [decide_eq_true_eq, masterObjects_fill_pos_iff hns, hns.masterObjects, lt_irrefl,
    if_false, add_zero] using hsum

end NamespaceFigures

/-! ### One namespace after the other -/

theorem sum_values_addCounts (a b : Dict Int) :
    (addCounts a b).values.sum = a.values.sum + b.values.sum :=
  Dict.sum_values_foldl_insertWith b.entries a

/-- What adding one namespace after the other keeps true, where some are still to come: these are
blank, and the totals are what the summaries of all namespaces add up to. -/
structure Rollup.Adds (names : List String) (rest : List (String × NodeStats)) (r : Rollup) :
    Prop where
  keys : r.summary.namespaces.keys = names
  blank : ∀ e ∈ rest, ∃ ns, r.summary.namespaces.get? e.1 = some ns ∧ ns.IsBlank
  sound : ∀ ns ∈ r.summary.namespaces.values, ns.IsSound
  namespaceCount : r.summary.cluster.namespaceCount + rest.length = names.length
  activeNamespaces : r.summary.cluster.activeNamespaces =
    (r.summary.namespaces.values.filter fun ns => 0 < ns.masterObjects).length
  devices : r.totals.devices = (r.summary.namespaces.values.map (·.devices)).sum
  migrating : r.summary.cluster.migrating = r.summary.namespaces.values.any (·.migrating)
  memory : r.totals.memory.IsOf (r.summary.namespaces.values.filterMap fun ns => some ns.memory)
  pmemIndex : r.totals.pmemIndex.IsOf (r.summary.namespaces.values.filterMap (·.pmemIndex))
  flashIndex : r.totals.flashIndex.IsOf (r.summary.namespaces.values.filterMap (·.flashIndex))
  unset : r.summary.cluster.devices = 0 ∧ r.summary.cluster.pmemIndex = none ∧
    r.summary.cluster.flashIndex = none

theorem any_migrating (namespaces : List NamespaceSummary) :
    namespaces.any (·.migrating) = (namespaces.map (·.migrating)).any id := by
  rw [List.any_map]
  rfl

namespace Rollup.Adds

variable {names : List String} {r : Rollup} {name : String} {nodes : NodeStats}
  {rest : List (String × NodeStats)}

/-- **One more namespace keeps it true.** -/
theorem addNamespace (configs : Dict NodeStats) (h : r.Adds names ((name, nodes) :: rest))
    (hnodes : nodes.isEmpty = false) (hrest : ∀ e ∈ rest, e.1 ≠ name) :
    (r.addNamespace configs (name, nodes)).Adds names rest := by
  obtain ⟨old, hold, hblank⟩ := h.blank _ List.mem_cons_self
  rw [addNamespace_of_get? configs r hnodes hold]
  have hf := NamespaceFigures.isSound_ofNodes ((configs.get? name).getD .empty) nodes
  generalize NamespaceFigures.ofNodes ((configs.get? name).getD .empty) nodes = f at hf
  exact
    { keys := (Dict.keys_insert_of_get? hold _).trans h.keys
      blank := fun e he => by
        obtain ⟨ns, hns, hblank⟩ := h.blank e (List.mem_cons_of_mem _ he)
        exact ⟨ns, by rw [Dict.get?_insert, if_neg (hrest e he), hns], hblank⟩
      sound := fun ns hns => by
        obtain ⟨key, hkey⟩ := Dict.mem_values_iff.1 hns
        rw [Dict.get?_insert] at hkey
        split at hkey
        · obtain rfl := Option.some.inj hkey
          exact NamespaceFigures.isSound_fill hf hblank
        · exact h.sound ns (Dict.mem_values_iff.2 ⟨key, hkey⟩)
      namespaceCount := by
        have hcount := h.namespaceCount
        rw [List.length_cons] at hcount
        change r.summary.cluster.namespaceCount + 1 + rest.length = _
        omega
      activeNamespaces := by
        rw [NamespaceFigures.length_active_insert f hold hblank, ← h.activeNamespaces]
        change (if 0 < f.masterObjects then _ else _) = _
        split <;> rfl
      devices := by
        rw [NamespaceFigures.sum_devices_insert hf hold hblank, ← h.devices]
        change Integer.sum (addCounts r.totals.deviceCounts f.devices).values =
          Integer.sum r.totals.deviceCounts.values + Integer.sum f.devices.values
        rw [Integer.sum_eq_sum, Integer.sum_eq_sum, Integer.sum_eq_sum, sum_values_addCounts]
      migrating := by
        have hsame : (f.fill old).migrating = old.migrating := rfl
        have hmigrating := h.migrating
        rw [any_migrating] at hmigrating ⊢
        rw [Dict.map_values_insert hold hsame, ← hmigrating]
        rfl
      memory := h.memory.insert hold (by rw [hblank.memory]; exact ⟨rfl, rfl⟩) (f.fill old)
      pmemIndex := by
        have hindex := h.pmemIndex.insert hold (by rw [hblank.pmemIndex]; exact ⟨rfl, rfl⟩)
          (f.fill old)
        rwa [NamespaceFigures.pmemIndex_fill hf hblank] at hindex
      flashIndex := by
        have hindex := h.flashIndex.insert hold (by rw [hblank.flashIndex]; exact ⟨rfl, rfl⟩)
          (f.fill old)
        rwa [NamespaceFigures.flashIndex_fill hf hblank] at hindex
      unset := h.unset }

/-- All namespaces that are still to come keep it true. -/
theorem addNamespaces (configs : Dict NodeStats) {entries : List (String × NodeStats)}
    (hsorted : Entries.Sorted entries) (hnodes : ∀ e ∈ entries, e.2.isEmpty = false)
    (h : r.Adds names entries) : (entries.foldl (Rollup.addNamespace configs) r).Adds names [] := by
  induction entries generalizing r with
  | nil => exact h
  | cons e rest ih =>
      obtain ⟨hlt, hrest⟩ := List.pairwise_cons.1 hsorted
      obtain ⟨hfirst, hnodes⟩ := List.forall_mem_cons.1 hnodes
      exact ih hrest hnodes
        (h.addNamespace configs hfirst fun e he => (String.ne_of_lt (hlt e he)).symm)

/-- What is true in the end: the totals are filled in. -/
theorem rollsUp (h : r.Adds names []) (nodeCount : Nat) : (r.close nodeCount).RollsUp := by
  obtain ⟨hdevices, hpmem, hflash⟩ := h.unset
  have hmemory := h.memory
  rw [List.filterMap_eq_map'] at hmemory
  exact
    { namespaceCount := by
        change r.summary.cluster.namespaceCount = r.summary.namespaces.size
        rw [Dict.size_eq_length_keys, h.keys]
        exact h.namespaceCount
      activeNamespaces := h.activeNamespaces
      devices := by
        have hnonneg : 0 ≤ r.totals.devices := by
          rw [h.devices]
          refine List.sum_nonneg fun n hn => ?_
          obtain ⟨ns, hns, rfl⟩ := List.mem_map.1 hn
          exact (h.sound ns hns).devices
        change (if 0 < r.totals.devices then r.totals.devices else r.summary.cluster.devices) = _
        rw [hdevices, Integer.sum_eq_sum]
        change _ = (r.summary.namespaces.values.map (·.devices)).sum
        rw [← h.devices]
        split <;> omega
      migrating := h.migrating
      memory := fun hpos => by
        have htotal : 0 < r.totals.memory.total := by
          rw [hmemory.total, List.map_map, ← Integer.sum_eq_sum]
          exact hpos
        change (r.totals.memory.usage?.getD r.summary.cluster.memory).IsSumOf _
        refine hmemory.isSumOf_usage? (fun u hu => ?_) ?_
        · obtain ⟨ns, hns, rfl⟩ := List.mem_map.1 hu
          exact (h.sound ns hns).memory
        · rw [StorageTotal.usage?, if_pos htotal, Option.getD_some]
      pmemIndex := by
        change StorageUsage.IsRollupOf (r.totals.pmemIndex.usage?.or r.summary.cluster.pmemIndex) _
        rw [hpmem, Option.or_none]
        refine h.pmemIndex.isRollupOf_usage? fun u hu => ?_
        obtain ⟨ns, hns, hindex⟩ := List.mem_filterMap.1 hu
        exact (h.sound ns hns).pmemIndex u hindex
      flashIndex := by
        change StorageUsage.IsRollupOf
          (r.totals.flashIndex.usage?.or r.summary.cluster.flashIndex) _
        rw [hflash, Option.or_none]
        refine h.flashIndex.isRollupOf_usage? fun u hu => ?_
        obtain ⟨ns, hns, hindex⟩ := List.mem_filterMap.1 hu
        exact (h.sound ns hns).flashIndex u hindex }

end Rollup.Adds

/-! ### The summary before any namespace is added -/

namespace Summary

/-- The summary of a cluster with some namespaces is ready for these to be added: none of the
figures is there yet that are added up, and the cluster is migrating exactly when a namespace is. -/
structure IsReady (names : List String) (s : Summary) : Prop where
  keys : s.namespaces.keys = names
  blank : ∀ ns ∈ s.namespaces.values, ns.IsBlank
  unset : s.cluster.devices = 0 ∧ s.cluster.pmemIndex = none ∧ s.cluster.flashIndex = none
  uncounted : s.cluster.namespaceCount = 0 ∧ s.cluster.activeNamespaces = 0
  migrating : s.cluster.migrating = s.namespaces.values.any (·.migrating)

theorem isReady_unknown {names : List String} (h : names.Pairwise (· < ·)) :
    (unknown names).IsReady names := by
  have hentries : (unknown names).namespaces.entries = names.map fun name => (name, {}) := by
    refine Entries.Sorted.normalise_eq ?_
    rw [Entries.sorted_iff_keys, List.map_map]
    simpa [Function.comp_def] using h
  have hvalues : ∀ ns ∈ (unknown names).namespaces.values, ns = {} := by
    intro ns hns
    rw [Dict.values, hentries, List.map_map] at hns
    obtain ⟨name, -, rfl⟩ := List.mem_map.1 hns
    rfl
  exact
    { keys := by
        rw [Dict.keys, hentries, List.map_map]
        exact List.map_id _
      blank := fun ns hns => by
        rw [hvalues ns hns]
        exact ⟨rfl, rfl, rfl, rfl, rfl⟩
      unset := ⟨rfl, rfl, rfl⟩
      uncounted := ⟨rfl, rfl⟩
      migrating := by
        refine (List.any_eq_false.2 fun ns hns => ?_).symm
        rw [hvalues ns hns]
        exact Bool.false_ne_true }

variable {names : List String} {s : Summary}

theorem map_migrating_withoutLicenses (s : Summary) :
    s.withoutLicenses.namespaces.values.map (·.migrating) =
      s.namespaces.values.map (·.migrating) := by
  simp [withoutLicenses, NamespaceSummary.withoutLicense, Dict.values, Dict.map, Function.comp_def]

theorem IsReady.of_withoutLicenses (h : s.IsReady names) {t : Summary}
    (hsame : t.withoutLicenses = s.withoutLicenses) : t.IsReady names := by
  have hcluster := cluster_eq_of_withoutLicenses hsame
  exact
    { keys := (keys_eq_of_withoutLicenses hsame).trans h.keys
      blank := fun ns hns => by
        obtain ⟨name, hname⟩ := Dict.mem_values_iff.1 hns
        obtain ⟨old, hold, heq⟩ := get?_of_withoutLicenses hsame hname
        obtain ⟨hdevices, hobjects, hmemory, hpmem, hflash⟩ :=
          h.blank old (Dict.mem_values_iff.2 ⟨name, hold⟩)
        rw [heq]
        exact ⟨hdevices, hobjects, hmemory, hpmem, hflash⟩
      unset := by
        rw [hcluster]
        exact h.unset
      uncounted := by
        rw [hcluster]
        exact h.uncounted
      migrating := by
        rw [any_migrating, ← map_migrating_withoutLicenses, hsame, map_migrating_withoutLicenses,
          ← any_migrating, hcluster]
        exact h.migrating }

/-- License figures leave a summary ready. -/
theorem IsReady.fillLicenses (h : s.IsReady names) (builds : Dict String) (nodes : Dict NodeStats)
    (agent : Option Json) (allowUnstable : Bool) :
    (s.fillLicenses builds nodes agent allowUnstable).IsReady names :=
  h.of_withoutLicenses (s.withoutLicenses_fillLicenses builds nodes agent allowUnstable)

/-- The mark of a namespace that is migrating leaves a summary ready. -/
theorem IsReady.markMigration (h : s.IsReady names) {entry : String × NodeStats}
    (hentry : entry.1 ∈ names) : (s.markMigration entry).IsReady names := by
  rw [Summary.markMigration]
  split
  case isFalse => exact h
  case isTrue =>
    exact
      { keys := (Dict.keys_map _ _).trans h.keys
        blank := fun ns hns => by
          obtain ⟨name, hname⟩ := Dict.mem_values_iff.1 hns
          rw [Dict.get?_map] at hname
          obtain ⟨old, hold, rfl⟩ := Option.map_eq_some_iff.1 hname
          have hblank := h.blank old (Dict.mem_values_iff.2 ⟨name, hold⟩)
          split
          · obtain ⟨hdevices, hobjects, hmemory, hpmem, hflash⟩ := hblank
            exact ⟨hdevices, hobjects, hmemory, hpmem, hflash⟩
          · exact hblank
        unset := h.unset
        uncounted := h.uncounted
        migrating := by
          rw [← h.keys] at hentry
          obtain ⟨ns, hns⟩ := Dict.mem_keys_iff.1 hentry
          refine (List.any_eq_true.2 ⟨{ ns with migrating := true }, ?_, rfl⟩).symm
          refine Dict.mem_values_iff.2 ⟨entry.1, ?_⟩
          rw [Dict.get?_map, hns, Option.map_some, if_pos rfl] }

/-- What identifies a cluster leaves a summary ready. -/
theorem IsReady.identify (h : s.IsReady names) (stats : ClusterStats)
    (metadata : ClusterMetadata) : (s.identify stats metadata).IsReady names :=
  ⟨h.keys, h.blank, h.unset, h.uncounted, h.migrating⟩

theorem isOf_of_isNothing {namespaces : List NamespaceSummary}
    {usage : NamespaceSummary → Option StorageUsage}
    (h : ∀ ns ∈ namespaces, IsNothing (usage ns)) :
    StorageTotal.IsOf {} (namespaces.filterMap usage) := by
  have hsum (g : StorageUsage → Int) (hg : ∀ ns ∈ namespaces, (usage ns).elim 0 g = 0) :
      0 = ((namespaces.filterMap usage).map g).sum := by
    rw [sum_map_filterMap]
    refine (List.sum_eq_zero fun n hn => ?_).symm
    obtain ⟨ns, hns, rfl⟩ := List.mem_map.1 hn
    exact hg ns hns
  exact ⟨hsum _ fun ns hns => (h ns hns).1, hsum _ fun ns hns => (h ns hns).2⟩

/-- The namespaces of a summary that is ready can be added one after the other. -/
theorem IsReady.adds {entries : List (String × NodeStats)} (h : s.IsReady names)
    (hentries : entries.map (·.1) = names) : Rollup.Adds names entries { summary := s } where
  keys := h.keys
  blank e he := by
    have hkey : e.1 ∈ s.namespaces.keys := by
      rw [h.keys, ← hentries]
      exact List.mem_map_of_mem he
    obtain ⟨ns, hns⟩ := Dict.mem_keys_iff.1 hkey
    exact ⟨ns, hns, h.blank ns (Dict.mem_values_iff.2 ⟨e.1, hns⟩)⟩
  sound ns hns := (h.blank ns hns).isSound
  namespaceCount := by
    change s.cluster.namespaceCount + entries.length = names.length
    rw [h.uncounted.1, ← hentries, List.length_map, Nat.zero_add]
  activeNamespaces := by
    have hnone : s.namespaces.values.filter (fun ns => 0 < ns.masterObjects) = [] := by
      refine List.filter_eq_nil_iff.2 fun ns hns => ?_
      simp [(h.blank ns hns).masterObjects]
    change s.cluster.activeNamespaces = (s.namespaces.values.filter _).length
    rw [h.uncounted.2, hnone]
    rfl
  devices := by
    refine (List.sum_eq_zero fun n hn => ?_).symm
    obtain ⟨ns, hns, rfl⟩ := List.mem_map.1 hn
    exact (h.blank ns hns).devices
  migrating := h.migrating
  memory := isOf_of_isNothing fun ns hns => by rw [(h.blank ns hns).memory]; exact ⟨rfl, rfl⟩
  pmemIndex := isOf_of_isNothing fun ns hns => by
    rw [(h.blank ns hns).pmemIndex]
    exact ⟨rfl, rfl⟩
  flashIndex := isOf_of_isNothing fun ns hns => by
    rw [(h.blank ns hns).flashIndex]
    exact ⟨rfl, rfl⟩
  unset := h.unset

theorem IsReady.markMigrations {entries : List (String × NodeStats)} (h : s.IsReady names)
    (hentries : ∀ e ∈ entries, e.1 ∈ names) :
    (entries.foldl Summary.markMigration s).IsReady names := by
  induction entries generalizing s with
  | nil => exact h
  | cons e rest ih =>
      obtain ⟨hfirst, hrest⟩ := List.forall_mem_cons.1 hentries
      exact ih (h.markMigration hfirst) hrest

/-- What everything but the license figures makes of a summary that is ready. -/
theorem IsReady.rollsUp (stats : ClusterStats) (metadata : ClusterMetadata)
    (h : s.IsReady (Keyed.flip stats.namespaces).keys) :
    (s.rollUp stats metadata).namespaces.keys = (Keyed.flip stats.namespaces).keys ∧
      (s.rollUp stats metadata).RollsUp := by
  have hmarked :
      ((Keyed.flip stats.namespaces).entries.foldl Summary.markMigration s).IsReady _ :=
    h.markMigrations fun e he => List.mem_map_of_mem he
  have hadds := ((hmarked.identify stats metadata).adds rfl).addNamespaces
    (Keyed.flip stats.namespaceConfigs) (Keyed.flip stats.namespaces).sorted
    fun e he => Keyed.allNonempty_flip stats.namespaces e.1 e.2 (Dict.mem_entries_iff.1 he)
  exact ⟨hadds.keys, hadds.rollsUp stats.serviceStats.size⟩

/-- **The cluster's figures are those of the namespaces rolled up**, and the namespaces are those
that some node answered for. -/
theorem rollsUp_create (stats : ClusterStats) (metadata : ClusterMetadata) (agent : Option Json)
    (allowUnstable : Bool) :
    (create stats metadata agent allowUnstable).namespaces.keys =
        (Keyed.flip stats.namespaces).keys ∧
      (create stats metadata agent allowUnstable).RollsUp :=
  ((isReady_unknown (Dict.pairwise_keys _)).fillLicenses _ _ agent allowUnstable).rollsUp stats
    metadata

end Summary
end ClusterReport
