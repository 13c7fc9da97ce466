/-
**When license usage can be estimated.**

An estimate adds up the nodes of one namespace after the other.  It stops at the first node that
does not say how many copies it keeps, that keeps another number than the nodes before it, or whose
release is not known; nodes that were not fetched, that reported nothing or that keep no copies are
passed over.  Stopping early is no matter of order: an estimate is possible exactly when each
namespace, taken alone, has none of these obstacles.  Nothing is filled in until all namespaces
are through, so an estimate that fails leaves the usage as it was.

Main definitions:

* `ClusterReport.Estimable` — a namespace whose usage can be estimated;
* `ClusterReport.NamespaceEstimate.Fits` — a node that goes with a number of copies.

Main results:

* `ClusterReport.NamespaceEstimate.addNode_eq_ok_iff` — what one node does to an estimate;
* `ClusterReport.NamespaceEstimate.exists_addNodes_iff` — the nodes of a namespace add up exactly
  when they all go with one number of copies;
* `ClusterReport.Licenses.run_addEstimates` — the pass over the namespaces leaves the usage as it
  is;
* `ClusterReport.Licenses.run_fillFromStats_iff` — **an estimate is possible exactly when every
  namespace can be estimated, and leaves the usage as it was when it is not**.
-/

import ClusterReport.License.Estimate
import ClusterReport.Proofs.Dict.Lookup

set_option relaxedAutoImplicit false
set_option autoImplicit false

namespace ClusterReport

/-- The number of copies that a node says it keeps of a namespace, if that can be read. -/
def copiesOf? (stats : Stats) : Option Int := Attribute.effectiveReplicationFactor.int? stats

/-- A namespace whose usage can be estimated.  Nodes count when their statistics were fetched and
are not empty. -/
structure Estimable (builds : Dict String) (nodes : NodeStats) : Prop where
  /-- Every node says how many copies it keeps. -/
  known : ∀ node stats, nodes.get? node = some (.data stats) → stats.isEmpty = false →
    ∃ copies, copiesOf? stats = some copies
  /-- Nodes that keep copies keep the same number. -/
  agree : ∀ node stats node' stats' copies copies',
    nodes.get? node = some (.data stats) → stats.isEmpty = false →
    nodes.get? node' = some (.data stats') → stats'.isEmpty = false →
    copiesOf? stats = some copies → copiesOf? stats' = some copies' →
    copies ≠ 0 → copies' ≠ 0 → copies = copies'
  /-- The release of a node that keeps copies is known. -/
  built : ∀ node stats copies, nodes.get? node = some (.data stats) → stats.isEmpty = false →
    copiesOf? stats = some copies → copies ≠ 0 → ∃ build, builds.get? node = some build

/-! ### Nodes -/

namespace NamespaceEstimate

variable {builds : Dict String} {name : String}

/-- What one node does to an estimate that it does not stop: it is passed over, or it is counted
with the number of copies that it keeps. -/
theorem addNode_eq_ok_iff (e : NamespaceEstimate) (node : String) (stats : Stats)
    (e' : NamespaceEstimate) :
    addNode builds name e node stats = .ok e' ↔
      ∃ found, copiesOf? stats = some found ∧
        (found = 0 ∧ e' = e ∨
          found ≠ 0 ∧ (∀ expected, e.copies = some expected → expected = found) ∧
            ∃ build, builds.get? node = some build ∧
              e' = { stored := e.stored + storedBytes stats
                     overhead := e.overhead + overheadBytes ⟨build⟩ stats
                     copies := some found }) := by
  unfold addNode copiesOf?
  cases hfound : Attribute.effectiveReplicationFactor.int? stats with
  | none => simp
  | some found =>
      by_cases hzero : found = 0
      · simp [hzero, eq_comm]
      · by_cases hagree : ∀ expected, e.copies = some expected → expected = found
        · have hnone : e.copies.filter (· ≠ found) = none := by
            rw [Option.filter_eq_none_iff]
            intro expected hexpected
            simp [hagree expected hexpected]
          cases builds.get? node with
          | none => simp only [if_neg hzero, hnone]; simp [hzero]
          | some build =>
              simp only [if_neg hzero, hnone]
              simpa [hzero, eq_comm] using fun _ expected h => (hagree expected h).symm
        · obtain ⟨expected, hexpected, hne⟩ :
              ∃ expected, e.copies = some expected ∧ expected ≠ found := by
            simpa using hagree
          have hsome : e.copies.filter (· ≠ found) = some expected := by
            simp [hexpected, Option.filter, hne]
          simp only [if_neg hzero, hsome]
          simp [hzero, hagree]

/-- A node goes with a number of copies: it keeps none, or that many and its release is known. -/
def Fits (builds : Dict String) (copies : Int) (node : String × Stats) : Prop :=
  ∃ found, copiesOf? node.2 = some found ∧
    (found ≠ 0 → found = copies ∧ ∃ build, builds.get? node.1 = some build)

/-- Nodes add up when the first one does not stop the estimate and the others do not stop what comes
of it. -/
theorem addNodes_cons_eq_ok_iff {e e' : NamespaceEstimate} {node : String × Stats}
    {rest : List (String × Stats)} :
    addNodes builds name e (node :: rest) = .ok e' ↔
      ∃ e₁, addNode builds name e node.1 node.2 = .ok e₁ ∧
        addNodes builds name e₁ rest = .ok e' := by
  rw [addNodes]
  cases addNode builds name e node.1 node.2 with
  | error cause => simp [bind, Except.bind]
  | ok e₁ => simp [bind, Except.bind]

/-- **Nodes add up exactly when they all go with one number of copies**, which is the one of the
nodes before them if these kept any. -/
theorem exists_addNodes_iff (e : NamespaceEstimate) (nodes : List (String × Stats)) :
    (∃ e', addNodes builds name e nodes = .ok e') ↔
      ∃ copies, (∀ expected, e.copies = some expected → expected = copies) ∧
        ∀ node ∈ nodes, Fits builds copies node := by
  induction nodes generalizing e with
  | nil =>
      refine iff_of_true ⟨e, rfl⟩ ⟨e.copies.getD 0, fun expected h => ?_, by simp⟩
      rw [h, Option.getD_some]
  | cons node rest ih =>
      obtain ⟨node, stats⟩ := node
      have hstep : (∃ e', addNodes builds name e ((node, stats) :: rest) = .ok e') ↔
          ∃ e₁, addNode builds name e node stats = .ok e₁ ∧
            ∃ e', addNodes builds name e₁ rest = .ok e' := by
        simp only [addNodes_cons_eq_ok_iff]
        rw [exists_comm]
        simp only [exists_and_left]
      rw [hstep]
      constructor
      · rintro ⟨e₁, hadd, hrest⟩
        obtain ⟨copies, hexpected, hfits⟩ := (ih e₁).1 hrest
        obtain ⟨found, hfound, hcase⟩ := (addNode_eq_ok_iff e node stats e₁).1 hadd
        rcases hcase with ⟨hzero, rfl⟩ | ⟨hne, hagree, build, hbuild, rfl⟩
        · refine ⟨copies, hexpected, List.forall_mem_cons.2 ⟨⟨found, hfound, ?_⟩, hfits⟩⟩
          exact fun hne => absurd hzero hne
        · -- once a node is counted, the number of copies is the one it keeps
          have hcopies : found = copies := hexpected found rfl
          refine ⟨copies, fun expected h => hcopies ▸ hagree expected h,
            List.forall_mem_cons.2 ⟨⟨found, hfound, fun _ => ⟨hcopies, build, hbuild⟩⟩, hfits⟩⟩
      · rintro ⟨copies, hexpected, hfits⟩
        obtain ⟨⟨found, hfound, hcase⟩, hrest⟩ := List.forall_mem_cons.1 hfits
        by_cases hzero : found = 0
        · exact ⟨e, (addNode_eq_ok_iff e node stats e).2 ⟨found, hfound, .inl ⟨hzero, rfl⟩⟩,
            (ih e).2 ⟨copies, hexpected, hrest⟩⟩
        · obtain ⟨hcopies, build, hbuild⟩ := hcase hzero
          refine ⟨_, (addNode_eq_ok_iff e node stats _).2 ⟨found, hfound, .inr ⟨hzero,
            fun expected h => hcopies ▸ hexpected expected h, build, hbuild, rfl⟩⟩,
            (ih _).2 ⟨copies, fun expected h => ?_, hrest⟩⟩
          exact (Option.some.inj h).symm.trans hcopies

end NamespaceEstimate

/-! ### Namespaces -/

theorem mem_usable_entries {nodes : NodeStats} {node : String} {stats : Stats} :
    (node, stats) ∈ nodes.usable.entries ↔
      nodes.get? node = some (.data stats) ∧ stats.isEmpty = false := by
  rw [Dict.mem_entries_iff, Keyed.get?_usable, Keyed.data?, Option.filter_eq_some_iff]
  cases nodes.get? node with
  | none => simp
  | some fetched => cases fetched <;> simp

/-- A namespace can be estimated exactly when all nodes that count go with one number of copies. -/
theorem estimable_iff {builds : Dict String} {nodes : NodeStats} :
    Estimable builds nodes ↔
      ∃ copies, ∀ node ∈ nodes.usable.entries, NamespaceEstimate.Fits builds copies node := by
  constructor
  · intro h
    by_cases hkeeps : ∃ node ∈ nodes.usable.entries, ∃ found, copiesOf? node.2 = some found ∧
        found ≠ 0
    · obtain ⟨⟨node, stats⟩, hmem, copies, hcopies, hne⟩ := hkeeps
      obtain ⟨hget, hstats⟩ := mem_usable_entries.1 hmem
      refine ⟨copies, fun ⟨node', stats'⟩ hmem' => ?_⟩
      obtain ⟨hget', hstats'⟩ := mem_usable_entries.1 hmem'
      obtain ⟨found, hfound⟩ := h.known node' stats' hget' hstats'
      exact ⟨found, hfound, fun hne' =>
        ⟨h.agree node' stats' node stats found copies hget' hstats' hget hstats hfound hcopies
          hne' hne, h.built node' stats' found hget' hstats' hfound hne'⟩⟩
    · -- no node keeps copies, so that they go with any number
      refine ⟨0, fun ⟨node, stats⟩ hmem => ?_⟩
      obtain ⟨hget, hstats⟩ := mem_usable_entries.1 hmem
      obtain ⟨found, hfound⟩ := h.known node stats hget hstats
      exact ⟨found, hfound, fun hne => absurd ⟨(node, stats), hmem, found, hfound, hne⟩ hkeeps⟩
  · rintro ⟨copies, hfits⟩
    have hfit : ∀ node stats found, nodes.get? node = some (.data stats) →
        stats.isEmpty = false → copiesOf? stats = some found → found ≠ 0 →
        found = copies ∧ ∃ build, builds.get? node = some build := by
      intro node stats found hget hstats hfound hne
      obtain ⟨found', hfound', hcase⟩ := hfits (node, stats) (mem_usable_entries.2 ⟨hget, hstats⟩)
      obtain rfl : found = found' := Option.some.inj (hfound.symm.trans hfound')
      exact hcase hne
    refine ⟨fun node stats hget hstats => ?_, ?_, ?_⟩
    · obtain ⟨found, hfound, -⟩ := hfits (node, stats) (mem_usable_entries.2 ⟨hget, hstats⟩)
      exact ⟨found, hfound⟩
    · intro node stats node' stats' found found' hget hstats hget' hstats' hfound hfound' hne hne'
      rw [(hfit node stats found hget hstats hfound hne).1,
        (hfit node' stats' found' hget' hstats' hfound' hne').1]
    · exact fun node stats found hget hstats hfound hne =>
        (hfit node stats found hget hstats hfound hne).2

theorem exists_estimateNamespace_iff (builds : Dict String) (name : String) (nodes : NodeStats) :
    (∃ estimate, estimateNamespace builds name nodes = .ok estimate) ↔ Estimable builds nodes := by
  have hrun : (∃ e, NamespaceEstimate.addNodes builds name {} nodes.usable.entries = .ok e) ↔ _ :=
    NamespaceEstimate.exists_addNodes_iff {} nodes.usable.entries
  -- no node has been counted yet, so that any number of copies may come
  simp only [reduceCtorEq, false_implies, implies_true, true_and] at hrun
  rw [estimable_iff, ← hrun, estimateNamespace]
  cases NamespaceEstimate.addNodes builds name {} nodes.usable.entries with
  | error cause => simp [Except.map]
  | ok e => simp [Except.map]

/-! ### The pass over the namespaces -/

namespace Licenses

theorem run_addEstimate (builds : Dict String) (estimates : List (String × Binary64))
    (name : String) (nodes : NodeStats) (s : Summary) :
    (Estimable builds nodes ∧ ∃ all, (addEstimate builds estimates name nodes).run s = .ok all s) ∨
      (¬ Estimable builds nodes ∧
        ∃ cause, (addEstimate builds estimates name nodes).run s = .error cause s) := by
  unfold addEstimate
  by_cases hempty : nodes.isEmpty = true
  · -- a namespace without nodes has no obstacles
    have hnone : nodes.entries = [] := List.isEmpty_iff.1 hempty
    have hget : ∀ node, nodes.get? node = none := fun node => by rw [Dict.get?, hnone]; rfl
    refine .inl ⟨⟨?_, ?_, ?_⟩, estimates, by rw [if_pos hempty]; rfl⟩ <;> simp [hget]
  · rw [if_neg hempty]
    have hiff := exists_estimateNamespace_iff builds name nodes
    rw [EStateM.run_bind, Summary.Update.run_ofExcept]
    cases hestimate : estimateNamespace builds name nodes with
    | error cause => exact .inr ⟨fun h => by simp [hestimate] at hiff; exact hiff h, cause, rfl⟩
    | ok estimate => exact .inl ⟨hiff.1 ⟨estimate, hestimate⟩, _, rfl⟩

/-- **The pass over any namespaces leaves the usage as it is**, whether it fails or not, and fails
exactly when one of them cannot be estimated. -/
theorem run_addEstimates (builds : Dict String) (estimates : List (String × Binary64))
    (namespaces : List (String × NodeStats)) (s : Summary) :
    ((∀ entry ∈ namespaces, Estimable builds entry.2) ∧
        ∃ all, (addEstimates builds estimates namespaces).run s = .ok all s) ∨
      (¬ (∀ entry ∈ namespaces, Estimable builds entry.2) ∧
        ∃ cause, (addEstimates builds estimates namespaces).run s = .error cause s) := by
  induction namespaces generalizing estimates with
  | nil => exact .inl ⟨by simp, estimates, rfl⟩
  | cons entry rest ih =>
      obtain ⟨name, nodes⟩ := entry
      rw [addEstimates, EStateM.run_bind, List.forall_mem_cons]
      rcases run_addEstimate builds estimates name nodes s with
        ⟨hnodes, all, hrun⟩ | ⟨hnodes, cause, hrun⟩
      · simpa only [hrun, hnodes, true_and] using ih all
      · exact .inr ⟨fun h => hnodes h.1, cause, by rw [hrun]⟩

theorem run_setEstimates (total : Binary64) (estimates : List (String × Binary64)) (s : Summary) :
    ∃ total' after, (setEstimates total estimates).run s = .ok total' after := by
  induction estimates generalizing total s with
  | nil => exact ⟨total, s, rfl⟩
  | cons entry rest ih =>
      obtain ⟨name, estimate⟩ := entry
      exact ih (total + estimate) (s.setNamespaceLicense name { latest := estimate.toInt64 })

/-- **An estimate is possible exactly when every namespace can be estimated, and leaves the usage
as it was when it is not.** -/
theorem run_fillFromStats_iff (builds : Dict String) (stats : Dict NodeStats) (s : Summary) :
    ((∃ after, (fillFromStats builds stats).run s = .ok () after) ↔
        ∀ name nodes, stats.get? name = some nodes → Estimable builds nodes) ∧
      ∀ cause after, (fillFromStats builds stats).run s = .error cause after → after = s := by
  have hall : (∀ name nodes, stats.get? name = some nodes → Estimable builds nodes) ↔
      ∀ entry ∈ stats.entries, Estimable builds entry.2 :=
    ⟨fun h entry hentry => h entry.1 entry.2 (Dict.mem_entries_iff.1 hentry),
      fun h name nodes hget => h (name, nodes) (Dict.mem_entries_iff.2 hget)⟩
  rw [hall, fillFromStats, EStateM.run_bind]
  rcases run_addEstimates builds [] stats.entries s with
    ⟨hstats, estimates, hrun⟩ | ⟨hstats, cause, hrun⟩
  · obtain ⟨total, after, hset⟩ := run_setEstimates (.zero false) estimates s
    simp only [hrun, EStateM.run_bind, hset]
    exact ⟨iff_of_true ⟨_, rfl⟩ hstats, fun cause after h => nomatch h⟩
  · simp only [hrun]
    refine ⟨iff_of_false (fun ⟨after, h⟩ => nomatch h) hstats, fun cause' after h => ?_⟩
    injection h with _ hafter
    exact hafter.symm

/-- Statistics of two namespaces, of which the second one is kept with the given numbers of
copies on its two nodes. -/
def statsWithCopies (first second : Int) : Dict NodeStats :=
  let node (copies : Int) : Fetched Stats := .data (.ofList [("repl-factor", .int copies)])
  .ofList [("a", .ofList [("n1", node 2), ("n2", node 2)]),
    ("b", .ofList [("n1", node first), ("n2", node second)])]

/-- A second namespace without any copies on one node can be estimated, and one with different
numbers of copies leaves the usage as it was, although the first namespace could be estimated. -/
theorem run_fillFromStats_statsWithCopies :
    let builds : Dict String := .ofList [("n1", "6.0.0"), ("n2", "7.0.0")]
    let before : Summary := { cluster := { license := { latest := 70 } } }
    (∀ name nodes, (statsWithCopies 0 3).get? name = some nodes → Estimable builds nodes) ∧
      ∃ after, (fillFromStats builds (statsWithCopies 2 3)).run before =
        .error (.copiesDiffer "b" 2 3) after ∧ after = before := by
  intro builds before
  have hrun : ∃ after, (fillFromStats builds (statsWithCopies 2 3)).run before =
      .error (.copiesDiffer "b" 2 3) after := ⟨_, rfl⟩
  obtain ⟨after, hrun⟩ := hrun
  exact ⟨(run_fillFromStats_iff builds (statsWithCopies 0 3) before).1.1 ⟨_, rfl⟩, after, hrun,
    (run_fillFromStats_iff builds (statsWithCopies 2 3) before).2 _ _ hrun⟩

end Licenses
end ClusterReport
