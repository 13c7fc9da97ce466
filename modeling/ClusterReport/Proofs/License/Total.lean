/-
**The estimated total.**

An estimate fills in for every namespace the integer that the namespace comes to, and for the
cluster the integer that all estimates come to, added up before they are made integers.  Estimates
are whole numbers in binary, so as long as the totals stay below `2 ^ 53` the sum of the figures is
exact, and the cluster shows the sum of what its namespaces show.  There is one exception: an
estimate that is not a number is shown as zero for its own namespace, but in the sum it takes all
other namespaces with it, so that the cluster shows zero.

Main definitions:

* `ClusterReport.Summary.latestOf` — the figure that is shown of a namespace;
* `ClusterReport.Summary.TotalsBelow` — figures whose running totals stay small;
* `ClusterReport.Licenses.AddsUp` — when the cluster shows the sum of its namespaces, and when
  nothing.

Main results:

* `ClusterReport.Licenses.exists_estimates` — what an estimate fills in;
* `ClusterReport.Licenses.isWhole_estimates` — figures with small totals are the estimates
  themselves;
* `ClusterReport.Licenses.addsUp_estimate` — **the cluster shows the sum of its namespaces, unless
  one of them has no number for an estimate**;
* `ClusterReport.Licenses.not_sum_zeroRatio` — a namespace that shows nothing and hides another one.
-/

import ClusterReport.Proofs.Binary64.Whole
import ClusterReport.Proofs.License.Undefined
import Mathlib.Data.List.Infix

set_option relaxedAutoImplicit false
set_option autoImplicit false

namespace ClusterReport

/-! ### What an estimate fills in -/

/-- The latest figure that is shown of a namespace. -/
def Summary.latestOf (s : Summary) (name : String) : Int := ((s.licenseOf? name).getD {}).latest

/-- The summary with the figures of some estimates. -/
def Summary.withEstimates (s : Summary) (estimates : List (String × Binary64)) : Summary :=
  estimates.foldl (fun s e => s.setNamespaceLicense e.1 { latest := e.2.toInt64 }) s

namespace Licenses

theorem exists_of_forall₂ {α β : Type} {r : α → β → Prop} {xs : List α} {ys : List β}
    (h : List.Forall₂ r xs ys) {x : α} (hx : x ∈ xs) : ∃ y ∈ ys, r x y := by
  induction h with
  | nil => cases hx
  | cons hxy _ ih =>
      rcases List.mem_cons.1 hx with rfl | hx
      · exact ⟨_, List.mem_cons_self, hxy⟩
      · obtain ⟨y, hy, hxy⟩ := ih hx
        exact ⟨y, List.mem_cons_of_mem _ hy, hxy⟩

/-- The estimate is that of the namespace. -/
def EstimatedAs (builds : Dict String) (entry : String × NodeStats)
    (estimate : String × Binary64) : Prop :=
  estimate.1 = entry.1 ∧ estimateNamespace builds entry.1 entry.2 = .ok estimate.2

theorem forall₂_of_addEstimates {builds : Dict String} {before all : List (String × Binary64)}
    {namespaces : List (String × NodeStats)} {s after : Summary}
    (hnodes : ∀ entry ∈ namespaces, entry.2.isEmpty = false)
    (h : (addEstimates builds before namespaces).run s = .ok all after) :
    after = s ∧ ∃ estimates, all = before ++ estimates ∧
      List.Forall₂ (EstimatedAs builds) namespaces estimates := by
  induction namespaces generalizing before with
  | nil =>
      cases h
      exact ⟨rfl, [], (List.append_nil _).symm, .nil⟩
  | cons entry rest ih =>
      obtain ⟨name, nodes⟩ := entry
      obtain ⟨hnodes, hrest⟩ := List.forall_mem_cons.1 hnodes
      rw [addEstimates, EStateM.run_bind, addEstimate, if_neg (by rw [hnodes]; decide),
        EStateM.run_bind, Summary.Update.run_ofExcept] at h
      cases hestimate : estimateNamespace builds name nodes with
      | error cause => rw [hestimate] at h; cases h
      | ok estimate =>
          rw [hestimate] at h
          obtain ⟨hafter, estimates, hall, hforall⟩ := ih hrest h
          refine ⟨hafter, (name, estimate) :: estimates, ?_, .cons ⟨rfl, hestimate⟩ hforall⟩
          rw [hall, List.append_assoc, List.singleton_append]

/-- Filling in estimates adds them up. -/
theorem run_setEstimates_eq (total : Binary64) (estimates : List (String × Binary64))
    (s : Summary) :
    (setEstimates total estimates).run s =
      .ok ((estimates.map (·.2)).foldl (· + ·) total) (s.withEstimates estimates) := by
  induction estimates generalizing total s with
  | nil => rfl
  | cons e rest ih =>
      exact ih (total + e.2) (s.setNamespaceLicense e.1 { latest := e.2.toInt64 })

theorem latestOf_withEstimates {estimates : List (String × Binary64)}
    (hsorted : Entries.Sorted estimates) {e : String × Binary64} (he : e ∈ estimates)
    {s : Summary} (hlisted : e.1 ∈ s.namespaces.keys) :
    (s.withEstimates estimates).latestOf e.1 = e.2.toInt64 := by
  obtain ⟨old, hold⟩ := Dict.mem_keys_iff.1 hlisted
  have hlicense : (s.withEstimates estimates).licenseOf? e.1 =
      some { latest := e.2.toInt64 } := by
    rw [Summary.licenseOf?, Summary.withEstimates, Summary.get?_foldl_setNamespaceLicense hsorted
      (fun estimate : Binary64 => { latest := estimate.toInt64 }), hold, hsorted.get?_of_mem he]
    rfl
  rw [Summary.latestOf, hlicense, Option.getD_some]

/-- What an estimate fills in: the figure of every namespace, and the one of the cluster. -/
theorem exists_estimates {builds : Dict String} {stats : Dict NodeStats} {s after : Summary}
    (h : (fillFromStats builds stats).run s = .ok () after)
    (hnodes : ∀ nodes ∈ stats.values, nodes.isEmpty = false) :
    ∃ estimates, List.Forall₂ (EstimatedAs builds) stats.entries estimates ∧
      after = (s.withEstimates estimates).setClusterLicense { latest :=
        ((estimates.map (·.2)).foldl (· + ·) (Binary64.zero false)).roundEven.toInt64 } := by
  have hentries : ∀ entry ∈ stats.entries, entry.2.isEmpty = false :=
    fun entry hentry => hnodes entry.2 (List.mem_map_of_mem hentry)
  rw [fillFromStats, EStateM.run_bind] at h
  cases hrun : (addEstimates builds [] stats.entries).run s with
  | error cause _ => simp only [hrun] at h; cases h
  | ok all between =>
      obtain ⟨rfl, estimates, hall, hforall⟩ := forall₂_of_addEstimates hentries hrun
      simp only [hrun, EStateM.run_bind, run_setEstimates_eq, hall, List.nil_append] at h
      cases h
      exact ⟨estimates, hforall, rfl⟩

end Licenses

/-! ### Totals -/

namespace Summary

/-- The figures of the namespaces added up from the first one on stay below a bound. -/
def TotalsBelow (s : Summary) (bound : Nat) (names : List String) : Prop :=
  ∀ first, first <+: names → (first.map s.latestOf).sum.natAbs < bound

instance (s : Summary) (bound : Nat) (names : List String) :
    Decidable (s.TotalsBelow bound names) :=
  decidable_of_iff (∀ first ∈ names.inits, (first.map s.latestOf).sum.natAbs < bound)
    (by simp only [TotalsBelow, List.mem_inits])

theorem TotalsBelow.natAbs_latestOf_lt {s : Summary} {bound : Nat} {names : List String}
    (h : s.TotalsBelow bound names) {name : String} (hname : name ∈ names) :
    (s.latestOf name).natAbs < 2 * bound := by
  obtain ⟨before, rest, rfl⟩ := List.append_of_mem hname
  have hbefore := h before (List.prefix_append _ _)
  have hwith := h (before ++ [name]) ⟨rest, List.append_cons .. ▸ rfl⟩
  rw [List.map_append, List.sum_append, List.map_singleton, List.sum_singleton] at hwith
  omega

end Summary

namespace Licenses

theorem EstimatedAs.isWhole {builds : Dict String} {entry : String × NodeStats}
    {e : String × Binary64} (h : EstimatedAs builds entry e) (hnan : e.2.isNan = false)
    (hsmall : e.2.toInt64.natAbs < 2 ^ 62) : e.2.IsWhole e.2.toInt64 := by
  obtain ⟨sum, -, hunique⟩ := estimateNamespace_eq_ok_iff.1 h.2
  rw [NamespaceEstimate.unique] at hunique
  rw [hunique, Binary64.isNan_roundEven] at hnan
  rw [hunique] at hsmall ⊢
  exact Binary64.isWhole_of_toInt64 hnan hsmall

theorem EstimatedAs.isNan_iff {builds : Dict String} {entry : String × NodeStats}
    {e : String × Binary64} (h : EstimatedAs builds entry e) :
    IsUndefined builds entry.1 entry.2 ↔ e.2.isNan = true := by
  rw [IsUndefined, h.2]
  constructor
  · rintro ⟨estimate, hestimate, hnan⟩
    rwa [Except.ok.inj hestimate]
  · exact fun hnan => ⟨e.2, rfl, hnan⟩

/-- What the cluster shows, next to what its namespaces show. -/
structure AddsUp (builds : Dict String) (stats : Dict NodeStats) (s : Summary) : Prop where
  /-- Estimates that are numbers add up. -/
  sum : (∀ name nodes, stats.get? name = some nodes → ¬ IsUndefined builds name nodes) →
    s.cluster.license.latest = (stats.keys.map s.latestOf).sum
  /-- One that is not a number takes the others with it. -/
  lost : (∃ name nodes, stats.get? name = some nodes ∧ IsUndefined builds name nodes) →
    s.cluster.license.latest = 0
  /-- With plain figures these are the namespaces where a node that counts divides zero by zero. -/
  undefined_iff : ∀ name nodes, stats.get? name = some nodes →
    (∀ stats, CountsIn nodes stats → PlainFigures stats) →
    (IsUndefined builds name nodes ↔ ∃ stats, CountsIn nodes stats ∧ DividesZero stats)

section

variable {builds : Dict String} {stats : Dict NodeStats} {estimates : List (String × Binary64)}
  {s : Summary}

theorem map_latestOf_withEstimates
    (h : List.Forall₂ (EstimatedAs builds) stats.entries estimates)
    (hlisted : ∀ name ∈ stats.keys, name ∈ s.namespaces.keys) :
    stats.keys = estimates.map (·.1) ∧
      ∀ e ∈ estimates, (s.withEstimates estimates).latestOf e.1 = e.2.toInt64 := by
  have hkeys : stats.keys = estimates.map (·.1) := by
    rw [Dict.keys, ← List.forall₂_eq_eq_eq, List.forall₂_map_left_iff, List.forall₂_map_right_iff]
    exact h.imp fun _ _ hentry => hentry.1.symm
  have hsorted : Entries.Sorted estimates :=
    (Entries.sorted_iff_keys estimates).2 (hkeys ▸ stats.pairwise_keys)
  refine ⟨hkeys, fun e he => latestOf_withEstimates hsorted he (hlisted e.1 ?_)⟩
  rw [hkeys]
  exact List.mem_map_of_mem he

theorem exists_isUndefined_iff
    (h : List.Forall₂ (EstimatedAs builds) stats.entries estimates) :
    (∃ name nodes, stats.get? name = some nodes ∧ IsUndefined builds name nodes) ↔
      ∃ e ∈ estimates, e.2.isNan = true := by
  constructor
  · rintro ⟨name, nodes, hget, hundefined⟩
    obtain ⟨e, he, hestimated⟩ := exists_of_forall₂ h (Dict.mem_entries_iff.2 hget)
    exact ⟨e, he, hestimated.isNan_iff.1 hundefined⟩
  · rintro ⟨e, he, hnan⟩
    obtain ⟨entry, hentry, (hestimated : EstimatedAs builds entry e)⟩ :=
      exists_of_forall₂ (r := flip _) h.flip he
    exact ⟨entry.1, entry.2, Dict.mem_entries_iff.1 hentry, hestimated.isNan_iff.2 hnan⟩

/-- **Figures with small totals are the estimates themselves.** -/
theorem isWhole_estimates
    (h : List.Forall₂ (EstimatedAs builds) stats.entries estimates)
    (hlisted : ∀ name ∈ stats.keys, name ∈ s.namespaces.keys)
    (hnan : ∀ e ∈ estimates, e.2.isNan = false)
    (hsmall : (s.withEstimates estimates).TotalsBelow (2 ^ 53) stats.keys) :
    List.Forall₂ Binary64.IsWhole (estimates.map (·.2))
      (stats.keys.map (s.withEstimates estimates).latestOf) := by
  obtain ⟨hkeys, hlatest⟩ := map_latestOf_withEstimates h hlisted
  rw [hkeys] at hsmall ⊢
  rw [List.map_map, List.forall₂_map_left_iff, List.forall₂_map_right_iff, List.forall₂_same]
  intro e he
  have hfigure := hsmall.natAbs_latestOf_lt (List.mem_map_of_mem he)
  rw [hlatest e he] at hfigure
  rw [Function.comp_apply, hlatest e he]
  obtain ⟨entry, -, (hestimated : EstimatedAs builds entry e)⟩ :=
    exists_of_forall₂ (r := flip _) h.flip he
  exact hestimated.isWhole (hnan e he) (by omega)

/-- With small totals the sum of the estimates is the sum of the figures. -/
theorem toInt64_sum_estimates
    (h : List.Forall₂ (EstimatedAs builds) stats.entries estimates)
    (hlisted : ∀ name ∈ stats.keys, name ∈ s.namespaces.keys)
    (hnan : ∀ e ∈ estimates, e.2.isNan = false)
    (hsmall : (s.withEstimates estimates).TotalsBelow (2 ^ 53) stats.keys) :
    ((estimates.map (·.2)).foldl (· + ·) (Binary64.zero false)).roundEven.toInt64 =
      (stats.keys.map (s.withEstimates estimates).latestOf).sum := by
  have htotals : ∀ k, (0 + ((stats.keys.map (s.withEstimates estimates).latestOf).take
      k).sum).natAbs < 2 ^ 53 := fun k => by
    rw [Int.zero_add, ← List.map_take]
    exact hsmall _ (List.take_prefix k _)
  have hsum := (Binary64.isWhole_zero false).foldl_add
    (isWhole_estimates h hlisted hnan hsmall) htotals
  rw [Int.zero_add] at hsum
  have htotal := hsmall _ (List.prefix_refl _)
  rw [(hsum.roundEven htotal).toInt64,
    Integer.clampInt64_of_fits _ ((Integer.fitsInt64_iff _).2 (by omega))]

end

/-- **The cluster shows the sum of its namespaces, unless one of them has no number for an
estimate**: when every namespace of the statistics is listed and has nodes, and the totals stay
below `2 ^ 53`. -/
theorem addsUp_estimate {builds : Dict String} {stats : Dict NodeStats} {s after : Summary}
    (hrun : (fillFromStats builds stats).run s = .ok () after)
    (hlisted : ∀ name ∈ stats.keys, name ∈ s.namespaces.keys)
    (hnodes : ∀ nodes ∈ stats.values, nodes.isEmpty = false)
    (hsmall : after.TotalsBelow (2 ^ 53) stats.keys) : AddsUp builds stats after := by
  obtain ⟨estimates, hforall, rfl⟩ := exists_estimates hrun hnodes
  refine ⟨fun hdefined => ?_, fun hundefined => ?_, fun name nodes hget hplain => ?_⟩
  · have hnan : ∀ e ∈ estimates, e.2.isNan = false := fun e he => by
      rw [Bool.eq_false_iff]
      intro hnan
      obtain ⟨name, nodes, hget, hundefined⟩ := (exists_isUndefined_iff hforall).2 ⟨e, he, hnan⟩
      exact hdefined name nodes hget hundefined
    exact toInt64_sum_estimates hforall hlisted hnan hsmall
  · obtain ⟨e, he, hnan⟩ := (exists_isUndefined_iff hforall).1 hundefined
    refine Binary64.toInt64_of_isNan ?_
    rw [Binary64.isNan_roundEven]
    exact Binary64.isNan_foldl_add (.inr ⟨e.2, List.mem_map_of_mem he, hnan⟩)
  · refine isUndefined_iff ?_ hplain
    obtain ⟨e, -, -, hestimate⟩ := exists_of_forall₂ hforall (Dict.mem_entries_iff.2 hget)
    exact (exists_estimateNamespace_iff builds name nodes).1 ⟨_, hestimate⟩

/-- Statistics of a namespace that stores nothing on its devices and reports the given compression
of them, and of one that keeps 100 bytes in memory. -/
def statsWithRatio (ratio : String) : Dict NodeStats :=
  let node (fields : List (String × Json)) : NodeStats :=
    .ofList [("n1", .data (.ofList (("repl-factor", .str "1") :: fields)))]
  .ofList [("a", node [("device_used_bytes", .str "0"), ("device_compression_ratio", .str ratio)]),
    ("b", node [("memory_used_data_bytes", .str "100")])]

/-- The summary with these figures of the cluster and of the two namespaces. -/
def ofFigures (cluster a b : Int) : Summary where
  cluster := { license := { latest := cluster } }
  namespaces :=
    .ofList [("a", { license := { latest := a } }), ("b", { license := { latest := b } })]

/-- With a compression of one half the cluster shows what its namespaces show. -/
theorem addsUp_estimate_half :
    let after := ofFigures 100 0 100
    (fillFromStats (.ofList [("n1", "6.0.0")]) (statsWithRatio "0.5")).run (ofFigures 0 0 0) =
        .ok () after ∧
      AddsUp (.ofList [("n1", "6.0.0")]) (statsWithRatio "0.5") after := by
  intro after
  have hrun : (fillFromStats (.ofList [("n1", "6.0.0")]) (statsWithRatio "0.5")).run
      (ofFigures 0 0 0) = .ok () after := by decide +kernel
  exact ⟨hrun, addsUp_estimate hrun (by decide +kernel) (by decide +kernel) (by decide +kernel)⟩

/-- With a compression of zero the first namespace shows zero, and so does the cluster, although the
second namespace shows 100 bytes. -/
theorem not_sum_zeroRatio :
    let after := ofFigures 0 0 100
    let stats := statsWithRatio "0"
    (fillFromStats (.ofList [("n1", "6.0.0")]) stats).run (ofFigures 0 0 0) = .ok () after ∧
      (∀ name ∈ stats.keys, name ∈ (ofFigures 0 0 0).namespaces.keys) ∧
      (∀ nodes ∈ stats.values, nodes.isEmpty = false) ∧
      after.TotalsBelow (2 ^ 53) stats.keys ∧
      after.cluster.license.latest ≠ (stats.keys.map after.latestOf).sum := by
  decide +kernel

end Licenses
end ClusterReport
