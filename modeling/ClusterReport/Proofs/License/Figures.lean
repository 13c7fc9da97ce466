/-
**The figures that samples tell.**

An entry of the agent's answer that is not skipped tells a figure of the cluster, and one of every
namespace that it names.  The pass over the entries mixes them: it carries one aggregate of the
cluster along, and one of each namespace that was named so far.  They do not meet, though.  What is
filled in for the cluster or for a namespace is the aggregate of the figures told of it, in the
order of the entries, and a namespace that no entry names keeps the usage it had.  What an answer
shows is therefore known from what a list of figures aggregates to.

Main definitions:

* `ClusterReport.UsageScope`, `UsageFigure` — of what a figure is told, and the figure;
* `ClusterReport.AgentResponse.figures` — the figures that an answer tells of the cluster or of a
  namespace;
* `ClusterReport.UsageAggregate.ofFigures` — their aggregate;
* `ClusterReport.Licenses.ShowsFigures` — that the usage shows something of the figures, of the
  cluster and of all namespaces.

Main results:

* `ClusterReport.UsagePass.aggregateOf?_add`, `aggregateOf?_foldl_add` — what one sample, and what
  all samples, do to the aggregate of the cluster or of a namespace;
* `ClusterReport.Licenses.usageOf?_of_run` — **an answer fills in the aggregates of its figures**;
* `ClusterReport.Licenses.showsFigures_of_run` — what every aggregate shows, the usage shows.
-/

import ClusterReport.Proofs.Dict.Lookup
import ClusterReport.Proofs.License.Skipped
import Mathlib.Data.List.Forall2

set_option relaxedAutoImplicit false
set_option autoImplicit false

namespace ClusterReport

/-! ### Figures -/

/-- Of what usage is told: of the cluster, or of one of its namespaces. -/
inductive UsageScope where
  | cluster
  | named (name : String)

/-- How much unique data there was at a point in time. -/
structure UsageFigure where
  time : Timestamp
  bytes : Int

/-- The unique data that an entry tells of the cluster or of a namespace. -/
def AgentEntry.bytesOf? (scope : UsageScope) (e : AgentEntry) : Option Int :=
  match scope with
  | .cluster => e.uniqueBytes
  | .named name => e.namespaces.get? name

/-- The figure that an entry tells of the cluster or of a namespace. -/
def AgentEntry.figure? (scope : UsageScope) (e : AgentEntry) : Option UsageFigure :=
  (Timestamp.ofText? e.time.toList).bind fun time => (e.bytesOf? scope).map fun bytes => ⟨time, bytes⟩

/-- The figures that an answer tells of the cluster or of a namespace, in the order of its entries;
those that are skipped tell none. -/
def AgentResponse.figures (allowUnstable : Bool) (response : AgentResponse) (scope : UsageScope) :
    List UsageFigure :=
  (response.counted allowUnstable).entries.filterMap (AgentEntry.figure? scope)

/-- The figure that a sample tells of the cluster or of a namespace. -/
def UsageSample.figure? (scope : UsageScope) (sample : UsageSample) : Option UsageFigure :=
  match scope with
  | .cluster => some ⟨sample.time, sample.uniqueBytes⟩
  | .named name => (sample.namespaces.get? name).map fun bytes => ⟨sample.time, bytes⟩

theorem AgentEntry.of_sample? {allowUnstable : Bool} {e : AgentEntry} {sample : UsageSample}
    (h : e.sample? allowUnstable = .ok (some sample)) (scope : UsageScope) :
    e.figure? scope = sample.figure? scope ∧
      e.bytesOf? scope = (sample.figure? scope).map UsageFigure.bytes := by
  unfold sample? at h
  split at h
  case h_1 => cases h
  case h_2 => cases h
  case h_3 =>
    split at h
    case h_1 => cases h
    case h_2 => cases h
    case h_3 bytes time hbytes htime =>
      cases h
      rw [figure?, htime, Option.bind_some]
      cases scope with
      | cluster =>
          rw [bytesOf?, hbytes]
          exact ⟨rfl, rfl⟩
      | named name =>
          refine ⟨rfl, ?_⟩
          rw [bytesOf?, UsageSample.figure?, Option.map_map]
          exact (congrFun Option.map_id _).symm

namespace AgentResponse

theorem forall₂_of_samples? {allowUnstable : Bool} {entries : List AgentEntry}
    {samples : List UsageSample} (hcounted : ∀ e ∈ entries, e.isSkipped allowUnstable = false)
    (h : samples? allowUnstable entries = .ok samples) :
    List.Forall₂ (fun e sample => e.sample? allowUnstable = .ok (some sample)) entries samples := by
  induction entries generalizing samples with
  | nil =>
      cases h
      exact .nil
  | cons e rest ih =>
      obtain ⟨he, hrest⟩ := List.forall_mem_cons.1 hcounted
      rw [samples?] at h
      split at h
      case h_1 => cases h
      case h_2 hnone =>
        have hentry := AgentEntry.sample?_of_not_skipped he
        rw [hnone] at hentry
        split at hentry
        case h_1 => cases hentry
        case h_2 => obtain ⟨sample, hs⟩ := hentry; cases hs
      case h_3 sample hs =>
        cases hlater : samples? allowUnstable rest with
        | error cause => rw [hlater] at h; cases h
        | ok later =>
            rw [hlater] at h
            cases h
            exact .cons hs (ih hrest hlater)

theorem filterMap_counted {α : Type} {allowUnstable : Bool} {response : AgentResponse}
    {samples : List UsageSample} (h : samples? allowUnstable response.entries = .ok samples)
    {f : AgentEntry → Option α} {g : UsageSample → Option α}
    (hfg : ∀ {e sample}, e.sample? allowUnstable = .ok (some sample) → f e = g sample) :
    (response.counted allowUnstable).entries.filterMap f = samples.filterMap g := by
  rw [← samples?_counted] at h
  have hall := forall₂_of_samples? (fun e he => isSkipped_of_mem_counted he) h
  generalize (response.counted allowUnstable).entries = entries at hall ⊢
  clear h
  induction hall with
  | nil => rfl
  | cons hs _ ih => rw [List.filterMap_cons, List.filterMap_cons, hfg hs, ih]

theorem figures_of_samples? {allowUnstable : Bool} {response : AgentResponse}
    {samples : List UsageSample} (h : samples? allowUnstable response.entries = .ok samples)
    (scope : UsageScope) :
    response.figures allowUnstable scope = samples.filterMap (UsageSample.figure? scope) ∧
      (response.counted allowUnstable).entries.filterMap (AgentEntry.bytesOf? scope) =
        (response.figures allowUnstable scope).map UsageFigure.bytes := by
  have hfigures : response.figures allowUnstable scope =
      samples.filterMap (UsageSample.figure? scope) :=
    filterMap_counted h fun hs => (AgentEntry.of_sample? hs scope).1
  refine ⟨hfigures, ?_⟩
  rw [hfigures, List.map_filterMap]
  exact filterMap_counted h fun hs => (AgentEntry.of_sample? hs scope).2

end AgentResponse

/-! ### Aggregates -/

namespace UsageAggregate

def addFigure (a : UsageAggregate) (f : UsageFigure) : UsageAggregate := a.add f.bytes f.time

/-- The aggregate of some figures. -/
def ofFigures (figures : List UsageFigure) : UsageAggregate := figures.foldl addFigure {}

theorem ofFigures_concat (figures : List UsageFigure) (f : UsageFigure) :
    ofFigures (figures ++ [f]) = (ofFigures figures).addFigure f :=
  List.foldl_concat ..

/-- The latest figure is the last one, whenever it was taken. -/
theorem latest_ofFigures {figures : List UsageFigure} {f : UsageFigure}
    (h : figures.getLast? = some f) :
    (ofFigures figures).latest = f.bytes ∧ (ofFigures figures).latestTime = some f.time := by
  obtain ⟨before, rfl⟩ := List.getLast?_eq_some_iff.1 h
  rw [ofFigures_concat]
  exact ⟨rfl, rfl⟩

end UsageAggregate

/-- An aggregate of some figures, or none yet, with one more figure. -/
def withFigure (a? : Option UsageAggregate) (f : UsageFigure) : Option UsageAggregate :=
  some ((a?.getD {}).addFigure f)

theorem foldl_withFigure (a? : Option UsageAggregate) (figures : List UsageFigure) :
    figures.foldl withFigure a? =
      if figures = [] then a? else some (figures.foldl UsageAggregate.addFigure (a?.getD {})) := by
  induction figures generalizing a? with
  | nil => rfl
  | cons f rest ih =>
      rw [List.foldl_cons, ih, if_neg (List.cons_ne_nil f rest), List.foldl_cons]
      cases rest with
      | nil => rfl
      | cons _ _ => rfl

namespace UsagePass

/-- The aggregate of the cluster, or of a namespace that was named. -/
def aggregateOf? (pass : UsagePass) : UsageScope → Option UsageAggregate
  | .cluster => some pass.cluster
  | .named name => pass.namespaces.get? name

/-- **One sample adds its figure to the aggregate** of the cluster and of every namespace that it
names, and leaves the other ones alone. -/
theorem aggregateOf?_add (pass : UsagePass) (sample : UsageSample) (scope : UsageScope) :
    (pass.add sample).aggregateOf? scope =
      match sample.figure? scope with
      | some f => withFigure (pass.aggregateOf? scope) f
      | none => pass.aggregateOf? scope := by
  cases scope with
  | cluster => rfl
  | named name =>
      refine (Dict.get?_foldl_insert sample.namespaces
        (fun a? bytes => ((a?.getD {} : UsageAggregate).add bytes sample.time)) _ name).trans ?_
      rw [UsageSample.figure?]
      cases sample.namespaces.get? name with
      | none => rfl
      | some bytes => rfl

/-- **All samples add their figures, in their order.** -/
theorem aggregateOf?_foldl_add (pass : UsagePass) (samples : List UsageSample)
    (scope : UsageScope) :
    (samples.foldl add pass).aggregateOf? scope =
      (samples.filterMap (UsageSample.figure? scope)).foldl withFigure
        (pass.aggregateOf? scope) := by
  induction samples generalizing pass with
  | nil => rfl
  | cons sample rest ih =>
      rw [List.foldl_cons, ih, aggregateOf?_add, List.filterMap_cons]
      cases sample.figure? scope with
      | none => rfl
      | some f => rfl

/-- The aggregate after a pass is that of the figures that were told. -/
theorem aggregateOf?_of_figures {samples : List UsageSample} {scope : UsageScope}
    (h : samples.filterMap (UsageSample.figure? scope) ≠ []) :
    (samples.foldl add {}).aggregateOf? scope =
      some (.ofFigures (samples.filterMap (UsageSample.figure? scope))) := by
  rw [aggregateOf?_foldl_add, foldl_withFigure, if_neg h]
  cases scope <;> rfl

end UsagePass

/-! ### Usage -/

namespace Summary

def usageOf? (s : Summary) : UsageScope → Option LicenseUsage
  | .cluster => some s.cluster.license
  | .named name => s.licenseOf? name

theorem usageOf?_showing (s : Summary) (pass : UsagePass) (scope : UsageScope) :
    (s.showing pass).usageOf? scope =
      (s.usageOf? scope).map fun old =>
        ((pass.aggregateOf? scope).map UsageAggregate.toUsage).getD old := by
  cases scope with
  | cluster =>
      exact congrArg (fun c => some c.license) (cluster_foldl_setNamespaceLicense _ _ _)
  | named name =>
      rw [usageOf?, usageOf?, licenseOf?, licenseOf?, showing,
        get?_foldl_setNamespaceLicense pass.namespaces.sorted, Option.map_map, Option.map_map]
      rfl

end Summary

namespace Licenses

theorem exists_samples_of_run {allowUnstable : Bool} {response : AgentResponse}
    {s after : Summary} (h : (fillFromAgent allowUnstable response).run s = .ok true after) :
    ∃ samples, AgentResponse.samples? allowUnstable response.entries = .ok samples ∧
      samples ≠ [] ∧ after = s.showing (samples.foldl UsagePass.add {}) := by
  rw [run_fillFromAgent] at h
  split at h
  case h_1 => cases h
  case h_2 => cases h
  case h_3 sample rest hsamples =>
    cases h
    exact ⟨_, hsamples, List.cons_ne_nil _ _, rfl⟩

/-- **An answer fills in the aggregates of its figures**, and leaves alone what it tells no figure
of. -/
theorem usageOf?_of_run {allowUnstable : Bool} {response : AgentResponse} {s after : Summary}
    (h : (fillFromAgent allowUnstable response).run s = .ok true after) (scope : UsageScope) :
    after.usageOf? scope = (s.usageOf? scope).map fun old =>
      if response.figures allowUnstable scope = [] then old
      else (UsageAggregate.ofFigures (response.figures allowUnstable scope)).toUsage := by
  obtain ⟨samples, hsamples, hne, rfl⟩ := exists_samples_of_run h
  rw [Summary.usageOf?_showing, (AgentResponse.figures_of_samples? hsamples scope).1]
  by_cases hnone : samples.filterMap (UsageSample.figure? scope) = []
  · cases scope with
    | cluster =>
        -- every sample tells a figure of the cluster
        obtain ⟨sample, rest, rfl⟩ := List.exists_cons_of_ne_nil hne
        cases hnone
    | named name =>
        rw [UsagePass.aggregateOf?_foldl_add, hnone]
        rfl
  · simp only [UsagePass.aggregateOf?_of_figures hnone, if_neg hnone, Option.map_some,
      Option.getD_some]

/-- The usage after an answer shows something of the figures that the answer tells: for the cluster,
of which it tells at least one, and for every listed namespace of which it tells any.  Other
namespaces show what they did, and no entry that counts is without its figure. -/
structure ShowsFigures (Shows : List UsageFigure → LicenseUsage → Prop) (allowUnstable : Bool)
    (response : AgentResponse) (s after : Summary) : Prop where
  cluster : response.figures allowUnstable .cluster ≠ [] ∧
    Shows (response.figures allowUnstable .cluster) after.cluster.license
  named : ∀ name ∈ s.namespaces.keys, response.figures allowUnstable (.named name) ≠ [] →
    ∃ usage, after.licenseOf? name = some usage ∧
      Shows (response.figures allowUnstable (.named name)) usage
  unnamed : ∀ name, response.figures allowUnstable (.named name) = [] →
    after.licenseOf? name = s.licenseOf? name
  complete : ∀ scope,
    (response.counted allowUnstable).entries.filterMap (AgentEntry.bytesOf? scope) =
      (response.figures allowUnstable scope).map UsageFigure.bytes

/-- **What every aggregate of figures shows, the usage after an answer shows.** -/
theorem showsFigures_of_run {Shows : List UsageFigure → LicenseUsage → Prop}
    (hshows : ∀ figures, figures ≠ [] → Shows figures (UsageAggregate.ofFigures figures).toUsage)
    {allowUnstable : Bool} {response : AgentResponse} {s after : Summary}
    (h : (fillFromAgent allowUnstable response).run s = .ok true after) :
    ShowsFigures Shows allowUnstable response s after where
  cluster := by
    obtain ⟨samples, hsamples, hne, -⟩ := exists_samples_of_run h
    have hfigures : response.figures allowUnstable .cluster ≠ [] := by
      obtain ⟨sample, rest, rfl⟩ := List.exists_cons_of_ne_nil hne
      rw [(AgentResponse.figures_of_samples? hsamples _).1]
      exact List.cons_ne_nil _ _
    have husage := usageOf?_of_run h .cluster
    rw [Summary.usageOf?, Summary.usageOf?, Option.map_some, if_neg hfigures] at husage
    exact ⟨hfigures, Option.some.inj husage ▸ hshows _ hfigures⟩
  named name hname hfigures := by
    obtain ⟨old, hold⟩ := Dict.mem_keys_iff.1 hname
    have husage := usageOf?_of_run h (.named name)
    rw [Summary.usageOf?, Summary.usageOf?, Summary.licenseOf?, Summary.licenseOf?, hold,
      Option.map_some, Option.map_some, if_neg hfigures] at husage
    exact ⟨_, husage, hshows _ hfigures⟩
  unnamed name hfigures := by
    have husage := usageOf?_of_run h (.named name)
    simp only [if_pos hfigures] at husage
    exact husage.trans (congrFun Option.map_id _)
  complete scope := by
    obtain ⟨samples, hsamples, -, -⟩ := exists_samples_of_run h
    exact (AgentResponse.figures_of_samples? hsamples scope).2

end Licenses
end ClusterReport
