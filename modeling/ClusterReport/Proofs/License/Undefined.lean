/-
**Estimates that are not numbers.**

What a node stores of a namespace is found by dividing, and a division can have no result: a node
that uses nothing of its devices and reports a compression of zero stores zero by zero.  One such
node is enough for the namespace's estimate not to be a number, whatever the other nodes store.
With byte counts and ratios that are not negative there is no other way to get there: a positive
count at a ratio of zero is infinitely much, sums of amounts are amounts, and what is kept beside
the records is always finite.

Main definitions:

* `ClusterReport.figureOf`, `ratioOf` — what a node reports of a byte count and of a ratio;
* `ClusterReport.PlainFigures` — byte counts and ratios that are not negative;
* `ClusterReport.DividesZero` — a node that uses nothing where it reports a ratio of zero;
* `ClusterReport.CountsIn` — a node that is counted in an estimate;
* `ClusterReport.IsUndefined` — a namespace whose estimate is not a number.

Main results:

* `ClusterReport.isNan_storedBytes`, `isAmount_storedBytes` — what a node stores;
* `ClusterReport.NamespaceEstimate.isNan_stored_addNodes`, `isDefined_addNodes` — what the nodes of
  a namespace add up to;
* `ClusterReport.isUndefined_iff` — **an estimate is not a number exactly when a node that counts
  divides zero by zero**.
-/

import ClusterReport.Proofs.Binary64.Defined
import ClusterReport.Proofs.License.Estimable

set_option relaxedAutoImplicit false
set_option autoImplicit false

namespace ClusterReport

/-! ### Nodes -/

/-- The byte count that a node reports, or zero. -/
def figureOf (stats : Stats) (a : Attribute) : Binary64 := (a.number? stats).getD (.zero false)

/-- The ratio that a node reports, or one. -/
def ratioOf (stats : Stats) (a : Attribute) : Binary64 := (a.number? stats).getD (.ofInt 1)

/-- Byte counts that are finite, and ratios, neither of them with a negative sign. -/
structure PlainFigures (stats : Stats) : Prop where
  device : (figureOf stats .deviceUsedBytesCurrent).IsCount
  deviceRatio : (ratioOf stats .deviceCompressionRatio).IsAmount
  pmem : (figureOf stats .pmemUsedBytes).IsCount
  pmemRatio : (ratioOf stats .pmemCompressionRatio).IsAmount
  index : (figureOf stats .memoryUsedIndexBytes).IsCount
  data : (figureOf stats .memoryUsedDataBytes).IsCount

/-- The node uses nothing of its devices, or of its persistent memory, and reports a compression of
zero for them. -/
def DividesZero (stats : Stats) : Prop :=
  ((figureOf stats .deviceUsedBytesCurrent).eq (.zero false) = true ∧
      (ratioOf stats .deviceCompressionRatio).eq (.zero false) = true) ∨
    ((figureOf stats .pmemUsedBytes).eq (.zero false) = true ∧
      (ratioOf stats .pmemCompressionRatio).eq (.zero false) = true)

theorem storedBytes_eq (stats : Stats) :
    let device := figureOf stats .deviceUsedBytesCurrent / ratioOf stats .deviceCompressionRatio
    let pmem := figureOf stats .pmemUsedBytes / ratioOf stats .pmemCompressionRatio
    storedBytes stats =
      (if device.eq (.zero false) && pmem.eq (.zero false) then
        figureOf stats .memoryUsedIndexBytes + figureOf stats .memoryUsedDataBytes
      else .zero false) + pmem + device := rfl

/-- Zero by zero is not lost in what a node stores. -/
theorem isNan_storedBytes {stats : Stats} (h : DividesZero stats) :
    (storedBytes stats).isNan = true := by
  rw [storedBytes_eq]
  rcases h with ⟨hbytes, hratio⟩ | ⟨hbytes, hratio⟩
  · exact Binary64.isNan_add_right _ (Binary64.isNan_div_of_zero hbytes hratio)
  · exact Binary64.isNan_add_left
      (Binary64.isNan_add_right _ (Binary64.isNan_div_of_zero hbytes hratio)) _

/-- With plain figures a node stores an amount, if it does not divide zero. -/
theorem isAmount_storedBytes {stats : Stats} (h : PlainFigures stats)
    (hzero : ¬ DividesZero stats) : (storedBytes stats).IsAmount := by
  rw [DividesZero, not_or] at hzero
  have hdevice := h.device.div h.deviceRatio hzero.1
  have hpmem := h.pmem.div h.pmemRatio hzero.2
  rw [storedBytes_eq]
  refine (Binary64.IsAmount.add ?_ hpmem).add hdevice
  split
  · exact h.index.isAmount.add h.data.isAmount
  · exact Binary64.isAmount_zero

/-! ### What is kept beside the records -/

theorem Integer.natAbs_of_fitsInt64 {n : Int} (h : fitsInt64 n = true) : n.natAbs ≤ 2 ^ 63 := by
  have hbounds := (fitsInt64_iff n).1 h
  omega

theorem atMost_overheadBytes (build : Version) (stats : Stats) :
    (overheadBytes build stats).AtMost (2 ^ 70) := by
  have hfits := Integer.natAbs_of_fitsInt64 (Integer.fitsInt64_wrapInt64
    ((Attribute.masterObjects.int? stats).getD 0 * ReleaseGate.recordOverhead build))
  exact Binary64.atMost_ofInt (Nat.le_trans hfits (by decide))

theorem atMost_add_overheadBytes {total : Binary64} (h : total.AtMost (2 ^ 130)) (build : Version)
    (stats : Stats) : (total + overheadBytes build stats).AtMost (2 ^ 130) :=
  h.add (atMost_overheadBytes build stats) (by decide +kernel)
    (Binary64.mul_unitsPerOne_lt_unitsLimit (Nat.le_refl _))

/-! ### The nodes of a namespace -/

/-- The node keeps copies of the namespace, so that it is counted. -/
def CountsIn (nodes : NodeStats) (stats : Stats) : Prop :=
  (∃ node, nodes.get? node = some (.data stats)) ∧ stats.isEmpty = false ∧
    ∃ copies, copiesOf? stats = some copies ∧ copies ≠ 0

namespace NamespaceEstimate

variable {builds : Dict String} {name : String}

/-- Once a node that counts stores no number, neither does the namespace. -/
theorem isNan_stored_addNodes {e e' : NamespaceEstimate} {nodes : List (String × Stats)}
    (hrun : addNodes builds name e nodes = .ok e')
    (h : e.stored.isNan = true ∨ ∃ node ∈ nodes, (storedBytes node.2).isNan = true ∧
      ∃ copies, copiesOf? node.2 = some copies ∧ copies ≠ 0) : e'.stored.isNan = true := by
  induction nodes generalizing e with
  | nil =>
      obtain rfl := Except.ok.inj hrun
      simpa using h
  | cons node rest ih =>
      obtain ⟨e₁, hadd, hrest⟩ := addNodes_cons_eq_ok_iff.1 hrun
      refine ih hrest ?_
      obtain ⟨found, hfound, ⟨hzero, rfl⟩ | ⟨hne, -, build, -, rfl⟩⟩ :=
        (addNode_eq_ok_iff e node.1 node.2 e₁).1 hadd
      · -- the node is passed over, so that it is not the one
        rcases h with hnan | ⟨other, hmem, hnan, copies, hcopies, hne⟩
        · exact .inl hnan
        · rcases List.mem_cons.1 hmem with rfl | hmem
          · exact absurd (Option.some.inj (hcopies.symm.trans hfound) ▸ hzero) hne
          · exact .inr ⟨other, hmem, hnan, copies, hcopies, hne⟩
      · rcases h with hnan | ⟨other, hmem, hnan, copies, hcopies, hne⟩
        · exact .inl (Binary64.isNan_add_left hnan _)
        · rcases List.mem_cons.1 hmem with rfl | hmem
          · exact .inl (Binary64.isNan_add_right _ hnan)
          · exact .inr ⟨other, hmem, hnan, copies, hcopies, hne⟩

/-- The nodes so far add up to an amount, with a finite overhead and a number of copies. -/
structure IsDefined (e : NamespaceEstimate) : Prop where
  stored : e.stored.IsAmount
  overhead : e.overhead.AtMost (2 ^ 130)
  copies : ∀ copies, e.copies = some copies → copies ≠ 0 ∧ Integer.fitsInt64 copies = true

/-- Nodes that store amounts add up to an amount. -/
theorem isDefined_addNodes {e e' : NamespaceEstimate} {nodes : List (String × Stats)}
    (hrun : addNodes builds name e nodes = .ok e')
    (hnodes : ∀ node ∈ nodes, (∃ copies, copiesOf? node.2 = some copies ∧ copies ≠ 0) →
      (storedBytes node.2).IsAmount) (he : e.IsDefined) : e'.IsDefined := by
  induction nodes generalizing e with
  | nil =>
      obtain rfl := Except.ok.inj hrun
      exact he
  | cons node rest ih =>
      obtain ⟨e₁, hadd, hrest⟩ := addNodes_cons_eq_ok_iff.1 hrun
      refine ih hrest (fun other hmem => hnodes other (List.mem_cons_of_mem _ hmem)) ?_
      obtain ⟨found, hfound, ⟨-, rfl⟩ | ⟨hne, -, build, -, rfl⟩⟩ :=
        (addNode_eq_ok_iff e node.1 node.2 e₁).1 hadd
      · exact he
      · exact
          { stored := he.stored.add (hnodes node List.mem_cons_self ⟨found, hfound, hne⟩)
            overhead := atMost_add_overheadBytes he.overhead ⟨build⟩ node.2
            copies := fun copies hcopies => by
              obtain rfl := Option.some.inj hcopies
              exact ⟨hne, Attribute.fitsInt64_of_int? hfound⟩ }

/-- What is not a number is not made one by copies and overhead. -/
theorem isNan_unique {e : NamespaceEstimate} (h : e.stored.isNan = true) :
    e.unique.isNan = true := by
  rw [unique, Binary64.isNan_roundEven]
  exact Binary64.isNan_sub_left (Binary64.isNan_div_left h _) _

theorem IsDefined.isNan_unique {e : NamespaceEstimate} (h : e.IsDefined) :
    e.unique.isNan = false := by
  have hcopies : e.copies.getD 1 ≠ 0 ∧ Integer.fitsInt64 (e.copies.getD 1) = true := by
    cases hread : e.copies with
    | none => exact ⟨by decide, rfl⟩
    | some copies => exact h.copies copies hread
  have hsmall := Integer.natAbs_of_fitsInt64 hcopies.2
  have hquot : (e.stored / .ofInt (e.copies.getD 1)).isNan = false :=
    Binary64.isNan_div h.stored.1 (Binary64.atMost_ofInt (by omega)).1
      (mt (Binary64.ofInt_eq_zero_iff _).1 hcopies.1)
  rw [unique, Binary64.isNan_roundEven]
  exact Binary64.isNan_sub hquot h.overhead.1

end NamespaceEstimate

/-! ### Namespaces -/

/-- The namespace has an estimate, and it is not a number. -/
def IsUndefined (builds : Dict String) (name : String) (nodes : NodeStats) : Prop :=
  ∃ estimate, estimateNamespace builds name nodes = .ok estimate ∧ estimate.isNan = true

theorem estimateNamespace_eq_ok_iff {builds : Dict String} {name : String} {nodes : NodeStats}
    {estimate : Binary64} :
    estimateNamespace builds name nodes = .ok estimate ↔
      ∃ e, NamespaceEstimate.addNodes builds name {} nodes.usable.entries = .ok e ∧
        estimate = e.unique := by
  rw [estimateNamespace]
  cases NamespaceEstimate.addNodes builds name {} nodes.usable.entries with
  | error cause => simp [Except.map]
  | ok e => simp [Except.map, eq_comm]

/-- **An estimate is not a number exactly when a node that counts divides zero by zero**, where
figures are plain. -/
theorem isUndefined_iff {builds : Dict String} {name : String} {nodes : NodeStats}
    (hestimable : Estimable builds nodes)
    (hplain : ∀ stats, CountsIn nodes stats → PlainFigures stats) :
    IsUndefined builds name nodes ↔ ∃ stats, CountsIn nodes stats ∧ DividesZero stats := by
  have hcounts : ∀ {node stats}, (node, stats) ∈ nodes.usable.entries →
      (∃ copies, copiesOf? stats = some copies ∧ copies ≠ 0) → CountsIn nodes stats :=
    fun hmem hcopies =>
      ⟨⟨_, (mem_usable_entries.1 hmem).1⟩, (mem_usable_entries.1 hmem).2, hcopies⟩
  obtain ⟨estimate, hestimate⟩ := (exists_estimateNamespace_iff builds name nodes).2 hestimable
  obtain ⟨e, hrun, hunique⟩ := estimateNamespace_eq_ok_iff.1 hestimate
  have hiff : IsUndefined builds name nodes ↔ e.unique.isNan = true := by
    rw [IsUndefined, hestimate, ← hunique]
    simp
  rw [hiff]
  constructor
  · intro hnan
    refine Classical.byContradiction fun hnone => ?_
    have hdefined : e.IsDefined := by
      refine NamespaceEstimate.isDefined_addNodes hrun (fun node hmem hcopies => ?_)
        ⟨Binary64.isAmount_zero, Binary64.atMost_zero _ _, fun copies h => nomatch h⟩
      have hnode := hcounts hmem hcopies
      exact isAmount_storedBytes (hplain node.2 hnode) fun hzero => hnone ⟨node.2, hnode, hzero⟩
    rw [hdefined.isNan_unique] at hnan
    cases hnan
  · rintro ⟨stats, ⟨⟨node, hget⟩, hstats, hcopies⟩, hzero⟩
    exact NamespaceEstimate.isNan_unique (NamespaceEstimate.isNan_stored_addNodes hrun
      (.inr ⟨(node, stats), mem_usable_entries.2 ⟨hget, hstats⟩, isNan_storedBytes hzero, hcopies⟩))

end ClusterReport
