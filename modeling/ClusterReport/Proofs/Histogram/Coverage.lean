/-
**Which histograms a byte distribution covers.**

Histograms of buckets and histograms of named ranges are restructured by different functions, each
of which passes over the histograms of the other form without a word.  No histogram gets lost that
way: before anything is restructured, all that were fetched are compared, and if their forms are
mixed there is no distribution at all.  Otherwise every one of them has a row in the distribution of
its namespace, and a namespace has a distribution if some node reported it, even if no node has a
histogram for it.

Main definitions:

* `ClusterReport.Histogram.IsFetched` — a histogram that was fetched for a node and a namespace;
* `ClusterReport.Histogram.MixesForms` — that histograms of different forms were fetched;
* `ClusterReport.Histogram.Covers` — what namespaces and nodes distributions have.

Main results:

* `ClusterReport.Histogram.format?_spec` — which form is found;
* `ClusterReport.Histogram.mem_nodes_distributionOfBuckets_iff`,
  `mem_nodes_distributionOfRanges_iff` — which nodes have a row;
* `ClusterReport.Histogram.output_covers` — **distributions are refused exactly when forms are
  mixed, and otherwise cover every histogram that was fetched**.
-/

import ClusterReport.Proofs.Histogram.Conservation

set_option relaxedAutoImplicit false
set_option autoImplicit false

namespace ClusterReport.Histogram

/-! ### Forms -/

/-- A histogram that was fetched for a node and a namespace. -/
def IsFetched (data : NodeHistograms) (node name : String) (h : Histogram) : Prop :=
  ∃ namespaces, data.get? node = some (.data namespaces) ∧ namespaces.get? name = some (.data h)

/-- Histograms of different forms were fetched: of buckets and of named ranges, or with units and
without. -/
def MixesForms (data : NodeHistograms) : Prop :=
  (∃ node name h node' name' h', IsFetched data node name h ∧ h.format = .linear ∧
      IsFetched data node' name' h' ∧ h'.format = .logarithmic) ∨
    ∃ node name h node' name' h', IsFetched data node name h ∧ h.hasUnits = true ∧
      IsFetched data node' name' h' ∧ h'.hasUnits = false

theorem mem_values_fetched_iff {α : Type} {d : Keyed α} {value : α} :
    value ∈ (Keyed.fetched d).values ↔ ∃ key, d.get? key = some (.data value) := by
  rw [Dict.mem_values_iff]
  refine exists_congr fun key => ?_
  rw [Keyed.fetched, Dict.get?_filterMap]
  cases d.get? key with
  | none => simp
  | some fetched => cases fetched <;> simp

theorem mem_fetched_iff {data : NodeHistograms} {h : Histogram} :
    h ∈ fetched data ↔ ∃ node name, IsFetched data node name h := by
  rw [fetched, List.mem_flatMap]
  constructor
  · rintro ⟨namespaces, hnamespaces, hh⟩
    obtain ⟨node, hnode⟩ := mem_values_fetched_iff.1 hnamespaces
    obtain ⟨name, hname⟩ := mem_values_fetched_iff.1 hh
    exact ⟨node, name, namespaces, hnode, hname⟩
  · rintro ⟨node, name, namespaces, hnode, hname⟩
    exact ⟨namespaces, mem_values_fetched_iff.2 ⟨node, hnode⟩,
      mem_values_fetched_iff.2 ⟨name, hname⟩⟩

theorem any_fetched_iff {data : NodeHistograms} {test : Histogram → Bool} :
    (fetched data).any test = true ↔ ∃ node name h, IsFetched data node name h ∧ test h = true := by
  rw [List.any_eq_true]
  constructor
  · rintro ⟨h, hh, htest⟩
    obtain ⟨node, name, hfetched⟩ := mem_fetched_iff.1 hh
    exact ⟨node, name, h, hfetched, htest⟩
  · rintro ⟨node, name, h, hfetched, htest⟩
    exact ⟨h, mem_fetched_iff.2 ⟨node, name, hfetched⟩, htest⟩

theorem eq_false_of_any_fetched {data : NodeHistograms} {test : Histogram → Bool}
    (hany : (fetched data).any test = false) {node name : String} {h : Histogram}
    (hh : IsFetched data node name h) : test h = false :=
  Bool.eq_false_iff.2 (List.any_eq_false.1 hany h (mem_fetched_iff.2 ⟨node, name, hh⟩))

theorem mixesForms_iff {data : NodeHistograms} :
    MixesForms data ↔
      ((fetched data).any (fun h => h.format = .linear) = true ∧
          (fetched data).any (fun h => h.format = .logarithmic) = true) ∨
        ((fetched data).any hasUnits = true ∧
          (fetched data).any (fun h => !h.hasUnits) = true) := by
  simp only [MixesForms, any_fetched_iff, decide_eq_true_eq, Bool.not_eq_true']
  constructor
  · rintro (⟨node, name, h, node', name', h', hh, hform, hh', hform'⟩ |
      ⟨node, name, h, node', name', h', hh, hunits, hh', hunits'⟩)
    · exact .inl ⟨⟨node, name, h, hh, hform⟩, node', name', h', hh', hform'⟩
    · exact .inr ⟨⟨node, name, h, hh, hunits⟩, node', name', h', hh', hunits'⟩
  · rintro (⟨⟨node, name, h, hh, hform⟩, node', name', h', hh', hform'⟩ |
      ⟨⟨node, name, h, hh, hunits⟩, node', name', h', hh', hunits'⟩)
    · exact .inl ⟨node, name, h, node', name', h', hh, hform, hh', hform'⟩
    · exact .inr ⟨node, name, h, node', name', h', hh, hunits, hh', hunits'⟩

theorem format_of_ne_linear {h : Histogram} (hform : h.format ≠ .linear) :
    h.format = .logarithmic := by
  cases h with
  | linear _ => exact absurd rfl hform
  | logarithmic _ => rfl

theorem format_of_ne_logarithmic {h : Histogram} (hform : h.format ≠ .logarithmic) :
    h.format = .linear := by
  cases h with
  | linear _ => rfl
  | logarithmic _ => exact absurd rfl hform

/-- A form is found unless forms are mixed, and then all histograms have it. -/
theorem format?_spec (data : NodeHistograms) :
    (MixesForms data ∧ format? data = .error .mixedFormats) ∨
      (¬ MixesForms data ∧ ∃ form?, format? data = .ok form? ∧
        ∀ node name h, IsFetched data node name h → form? = some h.format) := by
  rw [mixesForms_iff, format?]
  cases hunits : (fetched data).any hasUnits && (fetched data).any fun h => !h.hasUnits with
  | true => exact .inl ⟨.inr (Bool.and_eq_true_iff.1 hunits), rfl⟩
  | false =>
      have hunits' : ¬ ((fetched data).any hasUnits = true ∧
          (fetched data).any (fun h => !h.hasUnits) = true) := by
        rw [← Bool.and_eq_true, hunits]
        exact Bool.false_ne_true
      simp only [hunits', or_false]
      cases hlinear : (fetched data).any fun h => decide (h.format = .linear) with
      | true =>
          cases hlog : (fetched data).any fun h => decide (h.format = .logarithmic) with
          | true => exact .inl ⟨⟨rfl, rfl⟩, rfl⟩
          | false =>
              refine .inr ⟨by simp, some .linear, rfl, fun node name h hh => congrArg some ?_⟩
              exact (format_of_ne_logarithmic
                (of_decide_eq_false (eq_false_of_any_fetched hlog hh))).symm
      | false =>
          have hform : ∀ {node name h}, IsFetched data node name h → h.format = .logarithmic :=
            fun hh => format_of_ne_linear (of_decide_eq_false (eq_false_of_any_fetched hlinear hh))
          cases hlog : (fetched data).any fun h => decide (h.format = .logarithmic) with
          | true =>
              refine .inr ⟨by simp, some .logarithmic, rfl, fun node name h hh => congrArg some ?_⟩
              exact (hform hh).symm
          | false =>
              -- no histogram was fetched at all
              refine .inr ⟨by simp, none, rfl, fun node name h hh => ?_⟩
              exact absurd (hform hh) (of_decide_eq_false (eq_false_of_any_fetched hlog hh))

/-! ### Rows -/

/-- The nodes of a distribution of buckets are those with a histogram of buckets. -/
theorem mem_nodes_distributionOfBuckets_iff (builds : Dict String) (nodes : Keyed Histogram)
    (bucketCount : Nat) {node : String} :
    node ∈ (distributionOfBuckets (nodeBuckets builds nodes) bucketCount).nodes.keys ↔
      ∃ h, nodes.get? node = some (.data h) ∧ h.format = .linear := by
  rw [Dict.mem_keys_iff, get?_nodes_distributionOfBuckets, ← Option.isSome_iff_exists,
    Option.isSome_map]
  cases nodes.get? node with
  | none => simp
  | some fetched =>
      cases fetched with
      | failed cause => simp [linear?]
      | data h => cases h <;> simp [linear?, format]

/-- The nodes of a distribution of named ranges are those with a histogram of named ranges. -/
theorem mem_nodes_distributionOfRanges_iff (nodes : Keyed Histogram) {node : String} :
    node ∈ (distributionOfRanges (nodeRanges nodes)).nodes.keys ↔
      ∃ h, nodes.get? node = some (.data h) ∧ h.format = .logarithmic := by
  rw [distributionOfRanges, Dict.mem_keys_ofList, List.map_map, nodeRanges, List.map_filterMap,
    List.mem_filterMap]
  constructor
  · rintro ⟨⟨key, fetched⟩, hmem, hrow⟩
    cases fetched with
    | failed cause => cases hrow
    | data h =>
        cases h with
        | linear h => cases hrow
        | logarithmic h =>
            obtain rfl : key = node := Option.some.inj hrow
            exact ⟨_, Dict.mem_entries_iff.1 hmem, rfl⟩
  · rintro ⟨h, hh, hform⟩
    cases h with
    | linear h => cases hform
    | logarithmic h => exact ⟨(node, _), Dict.mem_entries_iff.2 hh, rfl⟩

/-! ### Distributions -/

/-- What distributions cover: there is one for each namespace that was reported by a node whose
answer did not fail, and it has a row for each node whose histogram for the namespace was
fetched. -/
structure Covers (data : NodeHistograms) (distributions : Dict NamespaceDistribution) : Prop where
  namespaces : ∀ name, name ∈ distributions.keys ↔
    ∃ node namespaces, data.get? node = some (.data namespaces) ∧ name ∈ namespaces.keys
  nodes : ∀ name d, distributions.get? name = some d → ∀ node,
    node ∈ d.nodes.keys ↔ ∃ h, IsFetched data node name h

theorem isFetched_iff_flip {data : NodeHistograms} {name node : String} {nodes : Keyed Histogram}
    (hnodes : (Keyed.flip data).get? name = some nodes) (h : Histogram) :
    IsFetched data node name h ↔ nodes.get? node = some (.data h) := by
  have hunder := Keyed.under?_flip data name node
  rw [Keyed.under?, hnodes, Option.bind_some] at hunder
  rw [hunder, Option.bind_eq_some_iff, IsFetched, Keyed.data?]
  refine exists_congr fun namespaces => and_congr_left fun _ => ?_
  cases data.get? node with
  | none => simp
  | some fetched => cases fetched <;> simp

/-- Distributions of all namespaces cover every histogram if they do in each namespace. -/
theorem covers_map_flip (data : NodeHistograms)
    (distribution : Keyed Histogram → NamespaceDistribution) (form : Format)
    (hform : ∀ node name h, IsFetched data node name h → h.format = form)
    (hnodes : ∀ nodes node, node ∈ (distribution nodes).nodes.keys ↔
      ∃ h, nodes.get? node = some (.data h) ∧ h.format = form) :
    Covers data ((Keyed.flip data).map fun _ nodes => distribution nodes) where
  namespaces name := by rw [Dict.keys_map, Keyed.mem_keys_flip_iff]
  nodes name d hd node := by
    rw [Dict.get?_map] at hd
    obtain ⟨nodes, hflip, rfl⟩ := Option.map_eq_some_iff.1 hd
    rw [hnodes]
    refine exists_congr fun h => ?_
    rw [← isFetched_iff_flip hflip]
    exact and_iff_left_of_imp (hform node name h)

/-- **Distributions are refused exactly when forms are mixed, and otherwise cover every histogram
that was fetched**, whatever the releases of the nodes and however many buckets are asked for. -/
theorem output_covers (builds : Dict String) (bucketCount : Nat) (name : String)
    (data : NodeHistograms) :
    (output name data (.byteDistribution bucketCount builds) = .error .mixedFormats ↔
        MixesForms data) ∧
      (MixesForms data ∨ ∃ distributions,
        output name data (.byteDistribution bucketCount builds) =
          .ok (.distribution distributions) ∧ Covers data distributions) := by
  rw [output]
  rcases format?_spec data with ⟨hmixed, hformat⟩ | ⟨hmixed, form?, hformat, hall⟩
  · rw [hformat]
    exact ⟨iff_of_true rfl hmixed, .inl hmixed⟩
  · rw [hformat]
    refine ⟨iff_of_false (fun h => ?_) hmixed, .inr ?_⟩
    · -- a form was found, and a distribution made of it
      rcases form? with _ | _ | _ <;> cases h
    · have hbuckets : (∀ node name h, IsFetched data node name h → h.format = .linear) →
          Covers data (distributionsOfBuckets builds bucketCount data) := fun hform =>
        covers_map_flip data _ .linear hform fun nodes _ =>
          mem_nodes_distributionOfBuckets_iff builds nodes bucketCount
      rcases form? with _ | _ | _
      case none => exact ⟨_, rfl, hbuckets fun node name h hh => nomatch hall node name h hh⟩
      case some.linear =>
        exact ⟨_, rfl, hbuckets fun node name h hh => (Option.some.inj (hall node name h hh)).symm⟩
      case some.logarithmic =>
        exact ⟨_, rfl, covers_map_flip data _ .logarithmic
          (fun node name h hh => (Option.some.inj (hall node name h hh)).symm)
          fun nodes _ => mem_nodes_distributionOfRanges_iff nodes⟩

end ClusterReport.Histogram
