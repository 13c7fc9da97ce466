/-
**What a failed configuration hides.**

Features are looked for in statistics with configurations merged over them, and what comes back from
a merge with a failure is the failure.  So where the configurations of a node, of all its namespaces
or of one of them could not be fetched, the statistics that they belong to are not seen either: the
row of the node is what it would be had that part not been reported at all.  Nothing is gained by
the failure, and a feature is lost whenever the part alone gives it away.

Main definitions:

* `ClusterReport.Feature.Part` — what is configured apart from the rest;
* `ClusterReport.Feature.NodeData.without` — what the checks see if a part is not reported;
* `ClusterReport.ClusterStats.withoutConfig` — a cluster in which a configuration is missing;
* `ClusterReport.ClusterStats.ConfigFails` — that the configuration of a part failed where the
  statistics were fetched;
* `ClusterReport.Feature.HidesPart` — that a row is what it would be without a part.

Main results:

* `ClusterReport.Feature.passes_of_configFails` — a failed configuration hides its part from every
  check;
* `ClusterReport.Feature.inUse_of_inUse_without` — nothing is in use for want of a part;
* `ClusterReport.Feature.get?_usageByNode_eq_iff` — when the failure makes no difference;
* `ClusterReport.Feature.hidesPart_of_configFails` — **a failed configuration hides its part, and
  the row is the same as without the failure exactly when no feature depends on the part**;
* `ClusterReport.Feature.not_row_eq_unconfigured` — reads that are not seen.
-/

import ClusterReport.Proofs.Feature.Usage
import ClusterReport.Proofs.Fetched.Path

set_option relaxedAutoImplicit false
set_option autoImplicit false

namespace ClusterReport

namespace Feature

/-! ### Parts of a node -/

/-- A part of a node that has statistics and configurations of its own. -/
inductive Part where
  | service
  | allNamespaces
  | oneNamespace (name : String)

/-- What the checks see if a part is not reported. -/
def NodeData.without (data : NodeData) : Part → NodeData
  | .service => { data with service := none }
  | .allNamespaces => { data with namespaces := none }
  | .oneNamespace name =>
    { data with namespaces := data.namespaces.map fun entries => entries.erase name }

end Feature

open Feature (Part)

namespace ClusterStats

/-- A cluster in which the configuration of a part of a node is missing. -/
def withoutConfig (stats : ClusterStats) (node : String) : Part → ClusterStats
  | .service => { stats with serviceConfigs := stats.serviceConfigs.erase node }
  | .allNamespaces => { stats with namespaceConfigs := stats.namespaceConfigs.erase node }
  | .oneNamespace name =>
    { stats with
      namespaceConfigs := stats.namespaceConfigs.map fun other fetched =>
        if other = node then fetched.map fun entries => entries.erase name else fetched }

/-- The statistics of a part of a node were fetched, and its configuration failed. -/
inductive ConfigFails (stats : ClusterStats) (node : String) : Part → Prop
  | service {mine : Stats} {cause : String}
      (hstats : stats.serviceStats.get? node = some (.data mine))
      (hconfig : stats.serviceConfigs.get? node = some (.failed cause)) :
      ConfigFails stats node .service
  | allNamespaces {mine : NodeStats} {cause : String}
      (hstats : stats.namespaceStats.get? node = some (.data mine))
      (hconfig : stats.namespaceConfigs.get? node = some (.failed cause)) :
      ConfigFails stats node .allNamespaces
  | oneNamespace {mine theirs : NodeStats} {name cause : String}
      (hstats : stats.namespaceStats.get? node = some (.data mine))
      (hconfigs : stats.namespaceConfigs.get? node = some (.data theirs))
      (hconfig : theirs.get? name = some (.failed cause)) :
      ConfigFails stats node (.oneNamespace name)

end ClusterStats

namespace Feature

/-! ### What the checks see -/

theorem passes_congr (check : FieldCheck) (a b : NodeData) (hservice : a.service = b.service)
    (hsecurity : a.security = b.security)
    (hnamespaces : a.namespaces.map Keyed.fetched = b.namespaces.map Keyed.fetched)
    (htargets : a.targets = b.targets) : check.passes a = check.passes b := by
  have hentries (entries? : Option NodeStats) : entries?.any check.passesEntries =
      (entries?.map Keyed.fetched).any fun fetched => fetched.values.any check.passesStats := by
    cases entries? <;> rfl
  rw [FieldCheck.passes, FieldCheck.passes, hservice, hsecurity, hentries a.namespaces,
    hnamespaces, htargets, ← hentries]

/-- The namespaces that are left of merged ones are those without the one whose configuration
failed. -/
theorem fetched_merge_failed {mine theirs : NodeStats} {name cause : String}
    (h : theirs.get? name = some (.failed cause)) :
    (mine.merge theirs).fetched =
      Keyed.fetched (Dict.erase (mine.merge (theirs.erase name)) name) := by
  refine Dict.ext_get? fun other => ?_
  rw [Keyed.fetched, Keyed.fetched, Dict.get?_filterMap, Dict.get?_filterMap, Dict.get?_erase,
    NodeStats.merge, Keyed.get?_merge, Keyed.get?_merge, Dict.get?_erase]
  by_cases hother : other = name
  · rw [if_pos hother, hother, h]
    exact Fetched.data?_merge_failed _ _ _
  · rw [if_neg hother, if_neg hother]

variable {stats : ClusterStats} {node : String} {part : Part}

/-- **A failed configuration hides its part from every check.** -/
theorem passes_of_configFails (h : stats.ConfigFails node part) (check : FieldCheck) :
    check.passes (nodeData stats node) =
      check.passes ((nodeData (stats.withoutConfig node part) node).without part) := by
  refine passes_congr check _ _ ?service ?security ?namespaces ?targets
  case security => cases part <;> rfl
  case targets => cases part <;> rfl
  case service =>
    cases h with
    | service hstats hconfig => exact Keyed.data?_merge_of_failed _ _ hconfig
    | _ => rfl
  case namespaces =>
    cases h with
    | service => rfl
    | allNamespaces hstats hconfig =>
        exact congrArg (Option.map Keyed.fetched) (Keyed.data?_merge_of_failed _ _ hconfig)
    | @oneNamespace mine theirs name cause hstats hconfigs hconfig =>
        have hfailed : stats.namespaces.data? node = some (mine.merge theirs) :=
          Keyed.data?_merge_of_data _ hstats hconfigs
        have hmissing : (stats.withoutConfig node (.oneNamespace name)).namespaces.data? node =
            some (mine.merge (theirs.erase name)) := by
          refine Keyed.data?_merge_of_data _ hstats ?_
          rw [ClusterStats.withoutConfig, Dict.get?_map, hconfigs, Option.map_some, if_pos rfl]
          rfl
        change (stats.namespaces.data? node).map Keyed.fetched = ((Keyed.data? _ node).map _).map _
        rw [hfailed, hmissing, Option.map_some, Option.map_some, Option.map_some,
          fetched_merge_failed hconfig]

theorem inUse_of_configFails (h : stats.ConfigFails node part) (f : Feature) :
    f.inUse (nodeData stats node) =
      f.inUse ((nodeData (stats.withoutConfig node part) node).without part) :=
  congrArg f.checks.any (funext (passes_of_configFails h))

/-- What passes without one of the entries passes with it. -/
theorem passesEntries_of_erase {entries : NodeStats} {name : String} {check : FieldCheck}
    (h : check.passesEntries (Dict.erase entries name) = true) :
    check.passesEntries entries = true := by
  obtain ⟨attributes, hmem, hpasses⟩ := List.any_eq_true.1 h
  obtain ⟨key, hkey⟩ := Dict.mem_values_iff.1 hmem
  rw [Keyed.fetched, Dict.get?_filterMap, Dict.get?_erase] at hkey
  refine List.any_eq_true.2 ⟨attributes, Dict.mem_values_iff.2 ⟨key, ?_⟩, hpasses⟩
  rw [Keyed.fetched, Dict.get?_filterMap]
  by_cases hname : key = name
  · rw [if_pos hname] at hkey
    cases hkey
  · rwa [if_neg hname] at hkey

theorem passes_of_passes_without {data : NodeData} {check : FieldCheck}
    (h : check.passes (data.without part) = true) : check.passes data = true := by
  obtain ⟨service, security, namespaces, targets⟩ := data
  unfold FieldCheck.passes at h ⊢
  split at h
  case h_1 =>
    cases part with
    | service => cases h
    | _ => exact h
  case h_2 => cases part <;> exact h
  case h_3 =>
    cases part with
    | service => exact h
    | allNamespaces => cases h
    | oneNamespace name =>
        cases namespaces with
        | none => cases h
        | some entries => exact passesEntries_of_erase h
  case h_4 => cases part <;> exact h

/-- Nothing is in use for want of a part. -/
theorem inUse_of_inUse_without {data : NodeData} {f : Feature}
    (h : f.inUse (data.without part) = true) : f.inUse data = true := by
  obtain ⟨check, hcheck, hpasses⟩ := List.any_eq_true.1 h
  exact List.any_eq_true.2 ⟨check, hcheck, passes_of_passes_without hpasses⟩

/-! ### Rows -/

theorem usageOf_eq_iff {a b : NodeData} :
    usageOf a = usageOf b ↔ ∀ f ∈ registry, f.inUse a = f.inUse b := by
  rw [usageOf, usageOf, List.map_inj_left]
  exact forall₂_congr fun f _ => by rw [Usage.mk.injEq, and_iff_right rfl]

theorem isSome_service_of_configFails (h : stats.ConfigFails node part) :
    (stats.service.get? node).isSome =
      ((stats.withoutConfig node part).service.get? node).isSome := by
  cases h with
  | service hstats =>
      have hsome (configs : NodeStats) :
          ((stats.serviceStats.merge configs).get? node).isSome = true := by
        rw [NodeStats.merge, Keyed.isSome_get?_merge, hstats, Option.isSome_some, Bool.true_or]
      exact (hsome _).trans (hsome _).symm
  | _ => rfl

/-- The row of a node whose configuration failed in part is that of the node without the part. -/
theorem get?_usageByNode_of_configFails (h : stats.ConfigFails node part) :
    (usageByNode stats).get? node =
      ((usageByNode (stats.withoutConfig node part)).get? node).map fun _ =>
        usageOf ((nodeData (stats.withoutConfig node part) node).without part) := by
  have hrow : usageOf (nodeData stats node) =
      usageOf ((nodeData (stats.withoutConfig node part) node).without part) :=
    usageOf_eq_iff.2 fun f _ => inUse_of_configFails h f
  have hkey := isSome_service_of_configFails h
  rw [get?_usageByNode, get?_usageByNode, hrow, Option.map_map]
  cases hget : stats.service.get? node with
  | none =>
      rw [hget] at hkey
      rw [Option.not_isSome_iff_eq_none.1 (Bool.eq_false_iff.1 hkey.symm)]
      rfl
  | some fetched =>
      rw [hget] at hkey
      obtain ⟨other, hother⟩ := Option.isSome_iff_exists.1 hkey.symm
      rw [hother]
      rfl

/-- The row is that of the cluster without the failure exactly when no feature depends on the
part. -/
theorem get?_usageByNode_eq_iff (h : stats.ConfigFails node part) :
    (usageByNode stats).get? node = (usageByNode (stats.withoutConfig node part)).get? node ↔
      ∀ row, (usageByNode (stats.withoutConfig node part)).get? node = some row →
        ∀ f ∈ registry, f.inUse (nodeData (stats.withoutConfig node part) node) = true →
          f.inUse ((nodeData (stats.withoutConfig node part) node).without part) = true := by
  rw [get?_usageByNode_of_configFails h]
  cases hrow : (usageByNode (stats.withoutConfig node part)).get? node with
  | none => simp
  | some row =>
      rw [get?_usageByNode] at hrow
      obtain ⟨-, -, rfl⟩ := Option.map_eq_some_iff.1 hrow
      rw [Option.map_some, Option.some_inj, usageOf_eq_iff]
      constructor
      · intro hsame _ _ f hf hused
        rwa [hsame f hf]
      · intro hdepends f hf
        exact Bool.eq_iff_iff.2 ⟨inUse_of_inUse_without, hdepends _ rfl f hf⟩

/-- The row of a node is what it would be if a part were not reported at all, and not what it would
be if only the configuration of the part were missing: no feature is gained, and the two are the
same exactly when every feature in use is in use without the part. -/
structure HidesPart (stats : ClusterStats) (node : String) (part : Part) : Prop where
  row : (usageByNode stats).get? node =
    ((usageByNode (stats.withoutConfig node part)).get? node).map fun _ =>
      usageOf ((nodeData (stats.withoutConfig node part) node).without part)
  kept : ∀ f ∈ registry, ∀ row row', (usageByNode stats).get? node = some row →
    (usageByNode (stats.withoutConfig node part)).get? node = some row' →
      find? row f.name = some true → find? row' f.name = some true
  same_iff : (usageByNode stats).get? node =
      (usageByNode (stats.withoutConfig node part)).get? node ↔
    ∀ row, (usageByNode (stats.withoutConfig node part)).get? node = some row →
      ∀ f ∈ registry, f.inUse (nodeData (stats.withoutConfig node part) node) = true →
        f.inUse ((nodeData (stats.withoutConfig node part) node).without part) = true

/-- **A failed configuration hides its part.** -/
theorem hidesPart_of_configFails (h : stats.ConfigFails node part) : HidesPart stats node part where
  row := get?_usageByNode_of_configFails h
  kept f hf row row' hrow hrow' hused := by
    rw [get?_usageByNode] at hrow hrow'
    obtain ⟨-, -, rfl⟩ := Option.map_eq_some_iff.1 hrow
    obtain ⟨-, -, rfl⟩ := Option.map_eq_some_iff.1 hrow'
    rw [find?_usageOf hf, Option.some_inj] at hused ⊢
    rw [inUse_of_configFails h] at hused
    exact inUse_of_inUse_without hused
  same_iff := get?_usageByNode_eq_iff h

/-- A node that was read from, and whose configuration could not be fetched. -/
def unconfigured : ClusterStats where
  serviceStats := .ofList [("n1", .data (.ofList [("stat_read_reqs", .str "5")]))]
  serviceConfigs := .ofList [("n1", .failed "timeout")]

theorem configFails_unconfigured : unconfigured.ConfigFails "n1" .service := .service rfl rfl

/-- The reads are hidden. -/
theorem hidesPart_unconfigured :
    unconfigured.ConfigFails "n1" .service ∧ HidesPart unconfigured "n1" .service :=
  ⟨configFails_unconfigured, hidesPart_of_configFails configFails_unconfigured⟩

/-- Reads are seen if a configuration is missing, and not if it failed. -/
theorem not_row_eq_unconfigured :
    ¬ ∀ stats node part, stats.ConfigFails node part →
      (usageByNode stats).get? node = (usageByNode (stats.withoutConfig node part)).get? node := by
  intro h
  have hsame := h unconfigured "n1" .service configFails_unconfigured
  have hreads := (get?_usageByNode_eq_iff configFails_unconfigured).1 hsame _ rfl
    ⟨"KVS", _⟩ List.mem_cons_self rfl
  exact absurd hreads (by decide)

end Feature
end ClusterReport
