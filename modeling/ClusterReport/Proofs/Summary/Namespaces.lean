/-
**Where the figures of a namespace end up.**

The figures of one namespace are written into its own summary and into no other one, and no step
before that writes any.  What a summary shows of a namespace in the end is therefore what was read
of its own nodes, filled into a summary that says nothing but the license and whether the namespace
is migrating.

Main definitions:

* `ClusterReport.NamespaceSummary.IsUnread` — that nothing but these two is known of a namespace;
* `ClusterReport.Summary.IsUnread` — that this is so of every namespace, and that no storage of the
  cluster is known;
* `ClusterReport.Summary.beforeNamespaces`, `afterNamespaces` — a summary before the first namespace
  is added, and after the last one.

Main results:

* `ClusterReport.Rollup.get?_addNamespace` — what one more namespace does to each of them;
* `ClusterReport.Rollup.get?_foldl_addNamespace` — what all of them do;
* `ClusterReport.Summary.get?_create` — **what is shown of a namespace was read of its nodes**;
* `ClusterReport.Summary.hasNoStorage_afterNamespaces` — the cluster's storage comes of the totals
  alone.
-/

import ClusterReport.Proofs.Summary.Rollup

set_option relaxedAutoImplicit false
set_option autoImplicit false

namespace ClusterReport

/-! ### One namespace after the other -/

namespace Rollup

variable (configs : Dict NodeStats)

/-- What one more namespace does to the summary of each namespace: its own is filled in, and the
others are left alone. -/
theorem get?_addNamespace (r : Rollup) {entry : String × NodeStats}
    (hentry : entry.2.isEmpty = false) (name : String) :
    (r.addNamespace configs entry).summary.namespaces.get? name =
      if name = entry.1 then
        (r.summary.namespaces.get? name).map
          (NamespaceFigures.ofNodes ((configs.get? entry.1).getD .empty) entry.2).fill
      else r.summary.namespaces.get? name := by
  obtain ⟨added, nodes⟩ := entry
  cases hadded : r.summary.namespaces.get? added with
  | none =>
      have hsame : r.addNamespace configs (added, nodes) = r := by
        simp [addNamespace, hadded]
      rw [hsame]
      split
      case isTrue hname => rw [hname, hadded, Option.map_none]
      case isFalse => rfl
  | some ns =>
      rw [addNamespace_of_get? configs r hentry hadded, Dict.get?_insert]
      split
      case isTrue hname => rw [hname, hadded, Option.map_some]
      case isFalse => rfl

/-- What all namespaces do to the summary of each: the ones that are there are filled in. -/
theorem get?_foldl_addNamespace {entries : List (String × NodeStats)}
    (hsorted : Entries.Sorted entries) (hentries : ∀ e ∈ entries, e.2.isEmpty = false)
    (r : Rollup) (name : String) :
    (entries.foldl (addNamespace configs) r).summary.namespaces.get? name =
      match Entries.get? name entries with
      | none => r.summary.namespaces.get? name
      | some nodes =>
        (r.summary.namespaces.get? name).map
          (NamespaceFigures.ofNodes ((configs.get? name).getD .empty) nodes).fill := by
  induction entries generalizing r with
  | nil => rfl
  | cons e rest ih =>
      obtain ⟨hlt, hrest⟩ := List.pairwise_cons.1 hsorted
      obtain ⟨hfirst, hentries⟩ := List.forall_mem_cons.1 hentries
      rw [List.foldl_cons, ih hrest hentries, get?_addNamespace configs r hfirst,
        Entries.get?_cons]
      by_cases hname : name = e.1
      · -- the namespace is filled in now, and does not come again
        rw [if_pos hname, if_pos hname, hname, Entries.get?_eq_none_of_lt hlt]
      · rw [if_neg hname, if_neg hname]

theorem storage_addNamespace (r : Rollup) (entry : String × NodeStats) :
    let c := (r.addNamespace configs entry).summary.cluster
    c.memory = r.summary.cluster.memory ∧ c.pmemIndex = r.summary.cluster.pmemIndex ∧
      c.flashIndex = r.summary.cluster.flashIndex := by
  unfold addNamespace
  split
  · exact ⟨rfl, rfl, rfl⟩
  · split <;> exact ⟨rfl, rfl, rfl⟩

end Rollup

/-! ### Before the first namespace -/

/-- Nothing has been read of a namespace but its license and whether it is migrating. -/
def NamespaceSummary.IsUnread (ns : NamespaceSummary) : Prop :=
  ns = { license := ns.license, migrating := ns.migrating }

/-- Nothing is known of the storage of a cluster. -/
structure ClusterSummary.HasNoStorage (c : ClusterSummary) : Prop where
  memory : c.memory = {}
  pmemIndex : c.pmemIndex = none
  flashIndex : c.flashIndex = none

namespace Summary

/-- Nothing has been read of any namespace but its license and whether it is migrating, and nothing
is known of the storage of the cluster. -/
structure IsUnread (s : Summary) : Prop where
  namespaces : ∀ name ns, s.namespaces.get? name = some ns → ns.IsUnread
  cluster : s.cluster.HasNoStorage

theorem isUnread_unknown (names : List String) : (unknown names).IsUnread where
  namespaces name ns hns := by
    obtain ⟨_, -, heq⟩ := List.mem_map.1 (Dict.mem_of_get?_ofList hns)
    obtain rfl := (Prod.mk.inj heq).2
    rfl
  cluster := ⟨rfl, rfl, rfl⟩

variable {s : Summary}

theorem IsUnread.fillLicenses (h : s.IsUnread) (builds : Dict String) (nodes : Dict NodeStats)
    (agent : Option Json) (allowUnstable : Bool) :
    (s.fillLicenses builds nodes agent allowUnstable).IsUnread where
  namespaces name ns hns := by
    obtain ⟨old, hold, hsame⟩ := get?_of_withoutLicenses
      (s.withoutLicenses_fillLicenses builds nodes agent allowUnstable) hns
    rw [h.namespaces name old hold] at hsame
    rw [hsame]
    rfl
  cluster := by
    rw [cluster_eq_of_withoutLicenses
      (s.withoutLicenses_fillLicenses builds nodes agent allowUnstable)]
    exact ⟨h.cluster.memory, h.cluster.pmemIndex, h.cluster.flashIndex⟩

theorem IsUnread.markMigration (h : s.IsUnread) (entry : String × NodeStats) :
    (s.markMigration entry).IsUnread := by
  rw [Summary.markMigration]
  split
  case isFalse => exact h
  case isTrue =>
    refine ⟨fun name ns hns => ?_, ⟨h.cluster.memory, h.cluster.pmemIndex, h.cluster.flashIndex⟩⟩
    rw [Dict.get?_map] at hns
    obtain ⟨old, hold, rfl⟩ := Option.map_eq_some_iff.1 hns
    have hold := h.namespaces name old hold
    split
    · rw [hold]
      rfl
    · exact hold

theorem IsUnread.markMigrations (h : s.IsUnread) (entries : List (String × NodeStats)) :
    (entries.foldl Summary.markMigration s).IsUnread :=
  List.foldlRecOn (motive := IsUnread) entries _ h fun _ h entry _ => h.markMigration entry

theorem IsUnread.identify (h : s.IsUnread) (stats : ClusterStats) (metadata : ClusterMetadata) :
    (s.identify stats metadata).IsUnread :=
  ⟨h.namespaces, ⟨h.cluster.memory, h.cluster.pmemIndex, h.cluster.flashIndex⟩⟩

/-! ### What a summary shows -/

section

variable (stats : ClusterStats) (metadata : ClusterMetadata) (agent : Option Json)
  (allowUnstable : Bool)

/-- The summary of everything that was captured, before any namespace has been added. -/
def beforeNamespaces : Summary :=
  let nodes := Keyed.flip stats.namespaces
  let licensed := (unknown nodes.keys).fillLicenses metadata.builds nodes agent allowUnstable
  (nodes.entries.foldl markMigration licensed).identify stats metadata

/-- The summary with the totals when all namespaces have been added. -/
def afterNamespaces : Rollup :=
  (Keyed.flip stats.namespaces).entries.foldl
    (Rollup.addNamespace (Keyed.flip stats.namespaceConfigs))
    { summary := beforeNamespaces stats metadata agent allowUnstable }

/-- What was read of a namespace that these nodes answered for. -/
def figuresOf (name : String) (nodes : NodeStats) : NamespaceFigures :=
  .ofNodes (((Keyed.flip stats.namespaceConfigs).get? name).getD .empty) nodes

theorem create_eq_close :
    create stats metadata agent allowUnstable =
      (afterNamespaces stats metadata agent allowUnstable).close stats.serviceStats.size := rfl

theorem isUnread_beforeNamespaces :
    (beforeNamespaces stats metadata agent allowUnstable).IsUnread :=
  (((isUnread_unknown _).fillLicenses _ _ agent allowUnstable).markMigrations _).identify stats
    metadata

theorem keys_beforeNamespaces :
    (beforeNamespaces stats metadata agent allowUnstable).namespaces.keys =
      (Keyed.flip stats.namespaces).keys :=
  ((((isReady_unknown (Dict.pairwise_keys _)).fillLicenses _ _ agent allowUnstable).markMigrations
    fun _ he => List.mem_map_of_mem he).identify stats metadata).keys

/-- What is known of each namespace in the end, and what was known of it before. -/
theorem get?_afterNamespaces (name : String) :
    (afterNamespaces stats metadata agent allowUnstable).summary.namespaces.get? name =
      match (Keyed.flip stats.namespaces).get? name with
      | none => (beforeNamespaces stats metadata agent allowUnstable).namespaces.get? name
      | some nodes =>
        ((beforeNamespaces stats metadata agent allowUnstable).namespaces.get? name).map
          (figuresOf stats name nodes).fill :=
  Rollup.get?_foldl_addNamespace _ (Keyed.flip stats.namespaces).sorted
    (fun e he => Keyed.allNonempty_flip stats.namespaces e.1 e.2 (Dict.mem_entries_iff.1 he)) _
    name

/-- The storage of the cluster is not known before the totals are filled in. -/
theorem hasNoStorage_afterNamespaces :
    (afterNamespaces stats metadata agent allowUnstable).summary.cluster.HasNoStorage := by
  refine List.foldlRecOn (motive := fun r : Rollup => r.summary.cluster.HasNoStorage) _ _
    (isUnread_beforeNamespaces stats metadata agent allowUnstable).cluster fun r hr entry _ => ?_
  obtain ⟨hmemory, hpmem, hflash⟩ :=
    r.storage_addNamespace (Keyed.flip stats.namespaceConfigs) entry
  exact ⟨hmemory.trans hr.memory, hpmem.trans hr.pmemIndex, hflash.trans hr.flashIndex⟩

/-- **What is shown of a namespace was read of its nodes**, but for the license and for whether it
is migrating. -/
theorem get?_create {name : String} {nodes : NodeStats}
    (h : (Keyed.flip stats.namespaces).get? name = some nodes) :
    ∃ license migrating, (create stats metadata agent allowUnstable).namespaces.get? name =
      some ((figuresOf stats name nodes).fill { license, migrating }) := by
  -- the namespace is listed, since a node answered for it
  have hkey : name ∈ (Keyed.flip stats.namespaces).keys := Dict.mem_keys_iff.2 ⟨nodes, h⟩
  rw [← keys_beforeNamespaces stats metadata agent allowUnstable] at hkey
  obtain ⟨ns, hns⟩ := Dict.mem_keys_iff.1 hkey
  have hunread : ns = { license := ns.license, migrating := ns.migrating } :=
    (isUnread_beforeNamespaces stats metadata agent allowUnstable).namespaces name ns hns
  have hafter := get?_afterNamespaces stats metadata agent allowUnstable name
  rw [h, hns] at hafter
  refine ⟨ns.license, ns.migrating, ?_⟩
  rw [← hunread, create_eq_close]
  exact hafter

theorem exists_nodes_of_get?_create {name : String} {ns : NamespaceSummary}
    (h : (create stats metadata agent allowUnstable).namespaces.get? name = some ns) :
    ∃ nodes, (Keyed.flip stats.namespaces).get? name = some nodes := by
  have hafter := get?_afterNamespaces stats metadata agent allowUnstable name
  cases hnodes : (Keyed.flip stats.namespaces).get? name with
  | some nodes => exact ⟨nodes, rfl⟩
  | none =>
      -- it would have to be listed from the start
      rw [hnodes] at hafter
      have hkey := Dict.mem_keys_iff.2 ⟨ns, hafter.symm.trans h⟩
      rw [keys_beforeNamespaces] at hkey
      obtain ⟨nodes, hsome⟩ := Dict.mem_keys_iff.1 hkey
      rw [hnodes] at hsome
      cases hsome

end

end Summary
end ClusterReport
