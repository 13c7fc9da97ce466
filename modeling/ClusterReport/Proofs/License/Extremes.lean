/-
**The least and the greatest figure.**

The aggregate of some figures carries the least and the greatest of them along.  The least one
starts from nothing, so that it is always one of the figures.  The greatest one starts from zero: it
is the greatest of the figures and zero, which is one of the figures unless all of them are
negative.  Either way the latest figure lies between the two.

Main definitions:

* `ClusterReport.valuesOf` — the values of some figures;
* `ClusterReport.UsageAggregate.Spans` — what an aggregate carries along of some values;
* `ClusterReport.ShowsLeast`, `ShowsGreatest` — usage that shows the least and the greatest figure;
* `ClusterReport.ShowsExtremes` — what the usage shows of them.

Main results:

* `ClusterReport.UsageAggregate.Spans.addFigure`, `spans_ofFigures` — one figure widens what is
  spanned, and an aggregate spans all of its figures;
* `ClusterReport.Licenses.showsExtremes_fillFromAgent` — **an answer shows the least figure, and the
  greatest one exactly when some figure is not negative**;
* `ClusterReport.Licenses.not_showsGreatest_negativeSample` — a single negative figure, of which
  zero is shown as the greatest.
-/

import ClusterReport.Proofs.License.Figures
import Mathlib.Data.List.Induction
import Mathlib.Order.Bounds.Basic

set_option relaxedAutoImplicit false
set_option autoImplicit false

namespace ClusterReport

/-! ### Values -/

/-- The values of some figures. -/
def valuesOf (figures : List UsageFigure) : Set Int := {bytes | ∃ f ∈ figures, f.bytes = bytes}

theorem mem_valuesOf {figures : List UsageFigure} {bytes : Int} :
    bytes ∈ valuesOf figures ↔ ∃ f ∈ figures, f.bytes = bytes := Iff.rfl

@[simp] theorem valuesOf_nil : valuesOf [] = ∅ := by
  ext bytes
  simp [mem_valuesOf]

@[simp] theorem valuesOf_concat (figures : List UsageFigure) (f : UsageFigure) :
    valuesOf (figures ++ [f]) = insert f.bytes (valuesOf figures) := by
  ext bytes
  simp [mem_valuesOf, or_and_right, exists_or, or_comm, eq_comm]

/-- The greatest of some values and zero is the greatest of the values if one of them is not
negative. -/
theorem isGreatest_iff_exists_nonneg {values : Set Int} {greatest : Int}
    (h : IsGreatest (insert 0 values) greatest) :
    IsGreatest values greatest ↔ ∃ value ∈ values, 0 ≤ value := by
  have hzero : 0 ≤ greatest := h.2 (Set.mem_insert 0 values)
  constructor
  · exact fun hvalues => ⟨greatest, hvalues.1, hzero⟩
  · rintro ⟨value, hvalue, hnonneg⟩
    refine ⟨?_, fun other hother => h.2 (Set.mem_insert_of_mem 0 hother)⟩
    rcases h.1 with rfl | hmem
    · -- zero is the greatest of all, so that the value is zero as well
      have hle : value ≤ 0 := h.2 (Set.mem_insert_of_mem 0 hvalue)
      rwa [← le_antisymm hle hnonneg]
    · exact hmem

/-! ### Aggregates -/

namespace UsageAggregate

/-- What an aggregate carries along of some values: the least of them, if there are any, and the
greatest of them and zero. -/
structure Spans (values : Set Int) (a : UsageAggregate) : Prop where
  least : (a.least = none ∧ values = ∅) ∨ ∃ least, a.least = some least ∧ IsLeast values least
  greatest : IsGreatest (insert 0 values) a.greatest

theorem spans_empty : Spans ∅ {} where
  least := .inl ⟨rfl, rfl⟩
  greatest := by simp

/-- **One more figure widens what is spanned.** -/
theorem Spans.addFigure {values : Set Int} {a : UsageAggregate} (h : Spans values a)
    (f : UsageFigure) : Spans (insert f.bytes values) (a.addFigure f) where
  least := by
    refine .inr ?_
    rcases h.least with ⟨hnone, rfl⟩ | ⟨least, hsome, hleast⟩
    · exact ⟨f.bytes, by rw [UsageAggregate.addFigure, add, hnone], by simp⟩
    · refine ⟨min least f.bytes, by rw [UsageAggregate.addFigure, add, hsome], ?_⟩
      rw [min_comm]
      exact hleast.insert f.bytes
  greatest := by
    rw [Set.insert_comm, UsageAggregate.addFigure, add, max_comm]
    exact h.greatest.insert f.bytes

/-- **An aggregate spans all of its figures.** -/
theorem spans_ofFigures (figures : List UsageFigure) :
    Spans (valuesOf figures) (ofFigures figures) := by
  induction figures using List.reverseRecOn with
  | nil =>
      rw [valuesOf_nil]
      exact spans_empty
  | append_singleton figures f ih =>
      rw [valuesOf_concat, ofFigures_concat]
      exact ih.addFigure f

end UsageAggregate

/-! ### Usage -/

/-- The usage shows the least of the figures. -/
def ShowsLeast (figures : List UsageFigure) (usage : LicenseUsage) : Prop :=
  ∃ least, usage.least = some least ∧ IsLeast (valuesOf figures) least

/-- The usage shows the greatest of the figures. -/
def ShowsGreatest (figures : List UsageFigure) (usage : LicenseUsage) : Prop :=
  ∃ greatest, usage.greatest = some greatest ∧ IsGreatest (valuesOf figures) greatest

/-- What the usage shows of the extremes of some figures. -/
structure ShowsExtremes (figures : List UsageFigure) (usage : LicenseUsage) : Prop where
  least : ShowsLeast figures usage
  /-- The greatest figure is shown where one of the figures is not negative. -/
  greatest_iff : ShowsGreatest figures usage ↔ ∃ f ∈ figures, 0 ≤ f.bytes
  /-- Zero is shown where all are negative. -/
  greatest_of_neg : (∀ f ∈ figures, f.bytes < 0) → usage.greatest = some 0
  between : ∃ least greatest, usage.least = some least ∧ usage.greatest = some greatest ∧
    least ≤ usage.latest ∧ usage.latest ≤ greatest

theorem showsExtremes_ofFigures {figures : List UsageFigure} (hne : figures ≠ []) :
    ShowsExtremes figures (UsageAggregate.ofFigures figures).toUsage := by
  obtain ⟨hleast, hgreatest⟩ := UsageAggregate.spans_ofFigures figures
  have hlatest : (UsageAggregate.ofFigures figures).latest ∈ valuesOf figures :=
    ⟨figures.getLast hne, List.getLast_mem hne,
      (UsageAggregate.latest_ofFigures (List.getLast?_eq_some_getLast hne)).1.symm⟩
  rcases hleast with ⟨-, hempty⟩ | ⟨least, hsome, hleast⟩
  · rw [hempty] at hlatest
    cases hlatest
  · refine ⟨⟨least, hsome, hleast⟩, ?_, fun hneg => ?_, ?_⟩
    · have hshown : ShowsGreatest figures (UsageAggregate.ofFigures figures).toUsage ↔
          IsGreatest (valuesOf figures) (UsageAggregate.ofFigures figures).greatest :=
        ⟨fun ⟨_, hsome, h⟩ => Option.some.inj hsome ▸ h, fun h => ⟨_, rfl, h⟩⟩
      rw [hshown, isGreatest_iff_exists_nonneg hgreatest]
      simp only [mem_valuesOf, exists_exists_and_eq_and]
    · rcases hgreatest.1 with hzero | ⟨f, hf, hbytes⟩
      · exact congrArg some hzero
      · -- zero is spanned, so that no negative value is the greatest
        have hle := hgreatest.2 (Set.mem_insert 0 (valuesOf figures))
        rw [← hbytes] at hle
        exact absurd (hneg f hf) (not_lt.2 hle)
    · exact ⟨least, _, hsome, rfl, hleast.2 hlatest,
        hgreatest.2 (Set.mem_insert_of_mem 0 hlatest)⟩

namespace Licenses

/-- **An answer shows the least figure, and the greatest one exactly when some figure is not
negative**: of the cluster, and of every listed namespace that it tells figures of. -/
theorem showsExtremes_fillFromAgent {allowUnstable : Bool} {response : AgentResponse}
    {s after : Summary} (h : (fillFromAgent allowUnstable response).run s = .ok true after) :
    ShowsFigures ShowsExtremes allowUnstable response s after :=
  showsFigures_of_run (fun _ hne => showsExtremes_ofFigures hne) h

/-- Two samples, of which the second one has a smaller figure and is the first to name a
namespace. -/
def namespaceNamedLater : AgentResponse where
  entries := [
    { time := "2024-01-01T00:00:00Z", level := "info", uniqueBytes := some 100,
      clusterStable := some true, namespaces := .empty },
    { time := "2024-01-01T01:00:00Z", level := "info", uniqueBytes := some (-5),
      clusterStable := some true, namespaces := .ofList [("test", -5)] }]

/-- The figures of the cluster go down to a negative one, and those of the namespace are negative
from the first one on. -/
theorem showsExtremes_namespaceNamedLater : ∃ after,
    (fillFromAgent false namespaceNamedLater).run (.unknown ["test"]) = .ok true after ∧
      ShowsFigures ShowsExtremes false namespaceNamedLater (.unknown ["test"]) after :=
  ⟨_, rfl, showsExtremes_fillFromAgent rfl⟩

/-- One sample with a negative figure. -/
def negativeSample : AgentResponse where
  entries := [
    { time := "2024-01-01T00:00:00Z", level := "info", uniqueBytes := some (-5),
      clusterStable := some true, namespaces := .empty }]

/-- Of a single negative figure zero is shown as the greatest. -/
theorem not_showsGreatest_negativeSample : ∃ after,
    (fillFromAgent false negativeSample).run {} = .ok true after ∧
      after.cluster.license.greatest = some 0 ∧
      ¬ ShowsGreatest (negativeSample.figures false .cluster) after.cluster.license := by
  refine ⟨_, rfl, rfl, ?_⟩
  rintro ⟨greatest, hsome, ⟨f, hf, hbytes⟩, -⟩
  have hvalues : (negativeSample.figures false .cluster).map UsageFigure.bytes = [-5] := rfl
  have hmem := List.mem_map_of_mem (f := UsageFigure.bytes) hf
  rw [hvalues, List.mem_singleton, hbytes, ← Option.some.inj hsome] at hmem
  exact absurd hmem (by decide)

end Licenses
end ClusterReport
