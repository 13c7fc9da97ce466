/-
**Nodes that an estimate passes over.**

Nodes that could not be reached, that reported nothing or that keep no copies are passed over in an
estimate.  They are passed over before anything else is asked of them, so that not even their
release has to be known, and nothing is added up for them.  What remains of the nodes of a namespace
is a dictionary of their own, and the estimate of the namespace is made of it alone.  Two clusters
that differ in such entries only have the same estimates, or fail with the same cause.

Main definitions:

* `ClusterReport.IsPassedOver` — an entry of a node that has no part in an estimate;
* `ClusterReport.DifferInPassedOver` — nodes that differ in such entries only;
* `ClusterReport.NodeStats.counted` — the nodes that have a part in it.

Main results:

* `ClusterReport.NamespaceEstimate.addNodes_counted` — nodes that keep no copies add nothing;
* `ClusterReport.estimateNamespace_congr` — a namespace is estimated from the nodes that count;
* `ClusterReport.Licenses.run_fillFromStats_eq` — **entries that are passed over have no influence
  on the estimate**.
-/

import ClusterReport.Proofs.Fetched.Spelling
import ClusterReport.Proofs.License.Estimable

set_option relaxedAutoImplicit false
set_option autoImplicit false

namespace ClusterReport

/-! ### Entries -/

/-- An entry of a node that has no part in an estimate: the node could not be reached, reported
nothing, or keeps no copies. -/
inductive IsPassedOver : Fetched Stats → Prop
  | failed (cause : String) : IsPassedOver (.failed cause)
  | empty {stats : Stats} (h : stats.isEmpty = true) : IsPassedOver (.data stats)
  | noCopies {stats : Stats} (h : copiesOf? stats = some 0) : IsPassedOver (.data stats)

/-- The nodes of a namespace differ in entries only that are passed over, and there are none on one
side only if there are none on the other. -/
structure DifferInPassedOver (nodes nodes' : NodeStats) : Prop where
  entry : ∀ node, nodes.get? node = nodes'.get? node ∨
    (∀ fetched, nodes.get? node = some fetched → IsPassedOver fetched) ∧
      ∀ fetched, nodes'.get? node = some fetched → IsPassedOver fetched
  isEmpty_eq : nodes.isEmpty = nodes'.isEmpty

theorem DifferInPassedOver.insert {nodes : NodeStats} (hnodes : nodes.isEmpty = false)
    {node : String} (hnone : nodes.get? node = none) {fetched : Fetched Stats}
    (h : IsPassedOver fetched) : DifferInPassedOver nodes (nodes.insert node fetched) where
  entry other := by
    rw [Dict.get?_insert]
    by_cases hother : other = node
    · rw [if_pos hother, hother, hnone]
      exact .inr ⟨nofun, fun _ hsome => Option.some.inj hsome ▸ h⟩
    · rw [if_neg hother]
      exact .inl rfl
  isEmpty_eq := by rw [hnodes, Dict.isEmpty_insert]

/-! ### Nodes -/

/-- The nodes without those that keep no copies. -/
def withCopies (nodes : Dict Stats) : Dict Stats :=
  nodes.filterMap fun _ stats => if copiesOf? stats = some 0 then none else some stats

/-- The nodes that have a part in an estimate. -/
def NodeStats.counted (nodes : NodeStats) : Dict Stats := withCopies nodes.usable

theorem NodeStats.get?_counted_of_passedOver {nodes : NodeStats} {node : String}
    (h : ∀ fetched, nodes.get? node = some fetched → IsPassedOver fetched) :
    nodes.counted.get? node = none := by
  rw [counted, withCopies, Dict.get?_filterMap, Keyed.get?_usable, Keyed.data?]
  cases hfetched : nodes.get? node with
  | none => rfl
  | some fetched =>
      cases h fetched hfetched with
      | failed cause => rfl
      | empty h => simp [h]
      | noCopies h => simp [h, Option.filter]

theorem DifferInPassedOver.counted_eq {nodes nodes' : NodeStats}
    (h : DifferInPassedOver nodes nodes') : nodes.counted = nodes'.counted := by
  refine Dict.ext_get? fun node => ?_
  rcases h.entry node with heq | ⟨hpassed, hpassed'⟩
  · rw [NodeStats.counted, NodeStats.counted, withCopies, withCopies, Dict.get?_filterMap,
      Dict.get?_filterMap, Keyed.get?_usable, Keyed.get?_usable, Keyed.data?, Keyed.data?, heq]
  · rw [NodeStats.get?_counted_of_passedOver hpassed, NodeStats.get?_counted_of_passedOver hpassed']

namespace NamespaceEstimate

/-- A node that keeps no copies adds nothing, whether its release is known or not. -/
theorem addNode_of_noCopies (builds : Dict String) (name : String) (e : NamespaceEstimate)
    (node : String) {stats : Stats} (h : copiesOf? stats = some 0) :
    addNode builds name e node stats = .ok e :=
  (addNode_eq_ok_iff e node stats e).2 ⟨0, h, .inl ⟨rfl, rfl⟩⟩

/-- **Nodes that keep no copies add nothing**, wherever they stand among the others. -/
theorem addNodes_counted (builds : Dict String) (name : String) (e : NamespaceEstimate)
    (nodes : Dict Stats) :
    addNodes builds name e (withCopies nodes).entries = addNodes builds name e nodes.entries := by
  obtain ⟨es, hes⟩ := nodes
  change addNodes builds name e (es.filterMap _) = addNodes builds name e es
  clear hes
  induction es generalizing e with
  | nil => rfl
  | cons entry rest ih =>
      obtain ⟨node, stats⟩ := entry
      by_cases hcopies : copiesOf? stats = some 0
      · rw [List.filterMap_cons_none (by simp [hcopies]), ih, addNodes,
          addNode_of_noCopies builds name e node hcopies]
        rfl
      · rw [List.filterMap_cons_some (b := (node, stats)) (by simp [hcopies]), addNodes, addNodes]
        exact bind_congr fun e => ih e

end NamespaceEstimate

/-- **A namespace is estimated from the nodes that count.** -/
theorem estimateNamespace_congr (builds : Dict String) (name : String) {nodes nodes' : NodeStats}
    (h : nodes.counted = nodes'.counted) :
    estimateNamespace builds name nodes = estimateNamespace builds name nodes' := by
  rw [estimateNamespace, estimateNamespace, ← NamespaceEstimate.addNodes_counted,
    ← NamespaceEstimate.addNodes_counted builds name {} (Keyed.usable nodes')]
  exact congrArg _ (congrArg _ (congrArg _ h))

/-! ### Namespaces -/

namespace Licenses

/-- The pass over namespaces whose nodes differ in entries only that are passed over is the same. -/
theorem addEstimates_congr (builds : Dict String) (estimates : List (String × Binary64))
    {namespaces namespaces' : List (String × NodeStats)}
    (h : List.Forall₂ (fun e f => e.1 = f.1 ∧ DifferInPassedOver e.2 f.2)
      namespaces namespaces') :
    addEstimates builds estimates namespaces = addEstimates builds estimates namespaces' := by
  induction h generalizing estimates with
  | nil => rfl
  | @cons e f rest rest' hentry _ ih =>
      obtain ⟨name, nodes⟩ := e
      obtain ⟨name', nodes'⟩ := f
      obtain ⟨rfl, hnodes⟩ := hentry
      have hadd : addEstimate builds estimates name nodes =
          addEstimate builds estimates name nodes' := by
        rw [addEstimate, addEstimate, hnodes.isEmpty_eq,
          estimateNamespace_congr builds name hnodes.counted_eq]
      rw [addEstimates, addEstimates, hadd]
      exact bind_congr fun estimates => ih estimates

/-- **Entries that are passed over have no influence on the estimate**: it is possible with them if
and only if it is without them, fails with the same cause, and fills in the same usage. -/
theorem run_fillFromStats_eq {stats stats' : Dict NodeStats}
    (h : Dict.Related DifferInPassedOver stats stats') (builds : Dict String) (s : Summary) :
    (fillFromStats builds stats).run s = (fillFromStats builds stats').run s := by
  rw [fillFromStats, fillFromStats, addEstimates_congr builds [] h.forall₂_entries]

/-- A node that keeps so many copies of a namespace, and stores so many bytes of it in memory. -/
def nodeInMemory (copies bytes : String) : Fetched Stats :=
  .data (.ofList [("repl-factor", .str copies), ("memory_used_data_bytes", .str bytes)])

/-- A second node that keeps no copies does not matter, although its release is not known. -/
theorem run_fillFromStats_eq_withoutCopies :
    let nodes : NodeStats := .ofList [("n1", nodeInMemory "1" "100")]
    let nodes' : NodeStats := nodes.insert "n2" (nodeInMemory "0" "500")
    let builds : Dict String := .ofList [("n1", "6.0.0")]
    Dict.Related DifferInPassedOver (.ofList [("test", nodes)]) (.ofList [("test", nodes')]) ∧
      (fillFromStats builds (.ofList [("test", nodes)])).run (.unknown ["test"]) =
        (fillFromStats builds (.ofList [("test", nodes')])).run (.unknown ["test"]) := by
  intro nodes nodes' builds
  have h : Dict.Related DifferInPassedOver (.ofList [("test", nodes)])
      (.ofList [("test", nodes')]) :=
    Dict.related_ofList (.cons ⟨rfl, .insert rfl rfl (.noCopies (by decide +kernel))⟩ .nil)
  exact ⟨h, run_fillFromStats_eq h builds _⟩

end Licenses
end ClusterReport
