/-
**The most recent figure.**

The aggregate of some figures takes every figure for a later one than those before it: the latest
figure that it shows is the last of the list, with the time at which it was taken.  That is the most
recent figure as long as no other one was taken after it, and so it is in an answer that tells its
figures in the order of time, in whatever offsets that is written.  Out of that order the figure
that is shown as the latest may have been taken before others.

Main definitions:

* `ClusterReport.ShowsMostRecent` — usage that shows the most recent figure;
* `ClusterReport.ShowsLast` — what the usage shows as the latest figure.

Main results:

* `ClusterReport.AgentResponse.instant_lt_iff_of_mem_figures` — figures that are told in one offset
  were taken in the order of what is written;
* `ClusterReport.Licenses.showsLast_fillFromAgent` — **an answer shows its last figure, which is the
  most recent one exactly if no other was taken after it**;
* `ClusterReport.Licenses.not_showsMostRecent_laterFirst` — two samples told in the wrong order, of
  which the earlier one is shown.
-/

import ClusterReport.Proofs.License.Figures
import ClusterReport.Proofs.Timestamp.Instant

set_option relaxedAutoImplicit false
set_option autoImplicit false

namespace ClusterReport

/-- The usage shows the most recent of the figures: no figure was taken after the time that is
shown, and the latest figure is one that was taken then. -/
def ShowsMostRecent (figures : List UsageFigure) (usage : LicenseUsage) : Prop :=
  ∃ time, usage.latestTime = some time ∧
    (∃ f ∈ figures, f.time.instant = time.instant ∧ f.bytes = usage.latest) ∧
    ∀ f ∈ figures, f.time.instant ≤ time.instant

theorem AgentResponse.isProper_of_mem_figures {allowUnstable : Bool} {response : AgentResponse}
    {scope : UsageScope} {f : UsageFigure} (hf : f ∈ response.figures allowUnstable scope) :
    f.time.IsProper := by
  obtain ⟨e, -, he⟩ := List.mem_filterMap.1 hf
  obtain ⟨time, htime, hbytes⟩ := Option.bind_eq_some_iff.1 he
  obtain ⟨bytes, -, rfl⟩ := Option.map_eq_some_iff.1 hbytes
  exact Timestamp.isProper_of_ofText? htime

/-- Figures that an answer tells in one offset were taken in the order of their written times. -/
theorem AgentResponse.instant_lt_iff_of_mem_figures {allowUnstable : Bool}
    {response : AgentResponse} {scope : UsageScope} {f g : UsageFigure}
    (hf : f ∈ response.figures allowUnstable scope)
    (hg : g ∈ response.figures allowUnstable scope) (hoffset : f.time.offset = g.time.offset) :
    f.time.instant < g.time.instant ↔ f.time.written < g.time.written :=
  Timestamp.instant_lt_iff (isProper_of_mem_figures hf) (isProper_of_mem_figures hg) hoffset

/-- What the usage shows as the latest of some figures. -/
structure ShowsLast (figures : List UsageFigure) (usage : LicenseUsage) : Prop where
  /-- The last figure is shown with its time, and is the most recent one exactly if no other was
  taken after it. -/
  last : ∃ last, figures.getLast? = some last ∧
    usage.latest = last.bytes ∧ usage.latestTime = some last.time ∧
    (ShowsMostRecent figures usage ↔ ∀ f ∈ figures, f.time.instant ≤ last.time.instant)
  /-- In the order of time it is. -/
  mostRecent : figures.Pairwise (fun f g => f.time.instant ≤ g.time.instant) →
    ShowsMostRecent figures usage

/-- The last figure that is shown is the most recent one exactly if no other was taken after it. -/
theorem showsMostRecent_iff {figures : List UsageFigure} {usage : LicenseUsage}
    {last : UsageFigure} (hlast : last ∈ figures) (hlatest : usage.latest = last.bytes)
    (htime : usage.latestTime = some last.time) :
    ShowsMostRecent figures usage ↔ ∀ f ∈ figures, f.time.instant ≤ last.time.instant := by
  constructor
  · rintro ⟨time, htime', -, hall⟩
    rwa [← Option.some.inj (htime.symm.trans htime')] at hall
  · exact fun hall => ⟨last.time, htime, ⟨last, hlast, rfl, hlatest.symm⟩, hall⟩

theorem showsLast_ofFigures {figures : List UsageFigure} (hne : figures ≠ []) :
    ShowsLast figures (UsageAggregate.ofFigures figures).toUsage := by
  obtain ⟨before, last, rfl⟩ : ∃ before last, figures = before ++ [last] :=
    ⟨_, _, (List.dropLast_append_getLast hne).symm⟩
  have hlast : (before ++ [last]).getLast? = some last := List.getLast?_concat
  obtain ⟨hlatest, htime⟩ := UsageAggregate.latest_ofFigures hlast
  have hiff : ShowsMostRecent _ (UsageAggregate.ofFigures (before ++ [last])).toUsage ↔ _ :=
    showsMostRecent_iff (List.mem_of_getLast? hlast) hlatest htime
  refine ⟨⟨last, hlast, hlatest, htime, hiff⟩, fun hordered => hiff.2 fun f hf => ?_⟩
  rcases List.mem_append.1 hf with hf | hf
  · exact (List.pairwise_append.1 hordered).2.2 f hf last List.mem_cons_self
  · rw [List.mem_singleton.1 hf]

namespace Licenses

/-- **An answer shows its last figure, which is the most recent one exactly if no other was taken
after it**: of the cluster, and of every listed namespace that it tells figures of. -/
theorem showsLast_fillFromAgent {allowUnstable : Bool} {response : AgentResponse}
    {s after : Summary} (h : (fillFromAgent allowUnstable response).run s = .ok true after) :
    ShowsFigures ShowsLast allowUnstable response s after :=
  showsFigures_of_run (fun _ hne => showsLast_ofFigures hne) h

/-- Two samples of a cluster and one of a namespace, taken at the given times. -/
def samplesAt (first second : String) : AgentResponse where
  entries := [
    { time := first, level := "info", uniqueBytes := some 20, clusterStable := some true,
      namespaces := .ofList [("test", 10)] },
    { time := second, level := "info", uniqueBytes := some 30, clusterStable := some true,
      namespaces := .empty }]

/-- A sample that was taken later on a clock that is behind. -/
theorem showsLast_samplesAt : ∃ after,
    (fillFromAgent false (samplesAt "2024-01-01T01:00:00+01:00" "2024-01-01T00:30:00Z")).run
        (.unknown ["test"]) = .ok true after ∧
      ShowsFigures ShowsLast false (samplesAt "2024-01-01T01:00:00+01:00" "2024-01-01T00:30:00Z")
        (.unknown ["test"]) after :=
  ⟨_, rfl, showsLast_fillFromAgent rfl⟩

/-- Of two samples in the wrong order the earlier one is shown as the latest. -/
theorem not_showsMostRecent_laterFirst :
    let response := samplesAt "2024-01-01T02:00:00Z" "2024-01-01T01:00:00Z"
    ∃ after, (fillFromAgent false response).run {} = .ok true after ∧
      after.cluster.license.latest = 30 ∧
      ¬ ShowsMostRecent (response.figures false .cluster) after.cluster.license := by
  refine ⟨_, rfl, rfl, ?_⟩
  rintro ⟨time, htime, -, hall⟩
  rw [← Option.some.inj htime] at hall
  exact absurd (hall _ List.mem_cons_self) (by decide +kernel)

end Licenses
end ClusterReport
