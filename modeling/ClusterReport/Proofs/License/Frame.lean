/-
**What license updates write.**

The license figures are computed by updates of a whole summary, and an update could write anything
into it.  Those of the license figures do not: whatever an update is made of, and whether it fails
or not, a summary without its license figures is after it what it was before.  That holds of the two
writes that there are, it is kept when updates are put together, and so it holds of the samples of
the agent, of an estimate, and of the choice between them.

Main definitions:

* `ClusterReport.Summary.withoutLicenses` — a summary with no license figures;
* `ClusterReport.Summary.Update.WritesLicensesOnly` — an update that leaves everything else alone.

Main results:

* `ClusterReport.Summary.withoutLicenses_setNamespaceLicense` — one write;
* `ClusterReport.Summary.Update.WritesLicensesOnly.bind`, `attempt` — updates put together;
* `ClusterReport.Licenses.writesLicensesOnly_fill` — **whatever the license figures are computed
  from, they are all that is written**.
-/

import ClusterReport.License.Estimate
import ClusterReport.Proofs.Dict.Lookup

set_option relaxedAutoImplicit false
set_option autoImplicit false

namespace ClusterReport

/-! ### Everything else -/

/-- The summary of a namespace with no license figures. -/
def NamespaceSummary.withoutLicense (ns : NamespaceSummary) : NamespaceSummary :=
  { ns with license := {} }

namespace Summary

/-- The summary with no license figures. -/
def withoutLicenses (s : Summary) : Summary where
  cluster := { s.cluster with license := {} }
  namespaces := s.namespaces.map fun _ ns => ns.withoutLicense

theorem get?_withoutLicenses (s : Summary) (name : String) :
    s.withoutLicenses.namespaces.get? name =
      (s.namespaces.get? name).map NamespaceSummary.withoutLicense :=
  Dict.get?_map _ _ _

theorem withoutLicenses_setClusterLicense (s : Summary) (usage : LicenseUsage) :
    (s.setClusterLicense usage).withoutLicenses = s.withoutLicenses := rfl

/-- **Other figures of a namespace leave everything else as it is**, in this namespace, in the other
ones, and in the cluster. -/
theorem withoutLicenses_setNamespaceLicense (s : Summary) (name : String) (usage : LicenseUsage) :
    (s.setNamespaceLicense name usage).withoutLicenses = s.withoutLicenses := by
  have hnamespaces : (s.setNamespaceLicense name usage).withoutLicenses.namespaces =
      s.withoutLicenses.namespaces := by
    refine Dict.ext_get? fun other => ?_
    rw [get?_withoutLicenses, get?_withoutLicenses, get?_setNamespaceLicense, Option.map_map]
    refine congrArg (Option.map · _) (funext fun ns => ?_)
    rw [Function.comp_apply]
    split <;> rfl
  rw [withoutLicenses, cluster_setNamespaceLicense]
  exact congrArg (Summary.mk _) hnamespaces

variable {s t : Summary}

theorem keys_eq_of_withoutLicenses (h : t.withoutLicenses = s.withoutLicenses) :
    t.namespaces.keys = s.namespaces.keys := by
  rw [← Dict.keys_map (fun _ ns => ns.withoutLicense) t.namespaces,
    ← Dict.keys_map (fun _ ns => ns.withoutLicense) s.namespaces]
  exact congrArg (·.namespaces.keys) h

theorem cluster_eq_of_withoutLicenses (h : t.withoutLicenses = s.withoutLicenses) :
    t.cluster = { s.cluster with license := t.cluster.license } :=
  congrArg (fun u : Summary => { u.cluster with license := t.cluster.license }) h

theorem get?_of_withoutLicenses (h : t.withoutLicenses = s.withoutLicenses) {name : String}
    {ns : NamespaceSummary} (hns : t.namespaces.get? name = some ns) :
    ∃ old, s.namespaces.get? name = some old ∧ ns = { old with license := ns.license } := by
  have hget := congrArg (·.namespaces.get? name) h
  simp only [get?_withoutLicenses, hns, Option.map_some] at hget
  obtain ⟨old, hold, hsame⟩ := Option.map_eq_some_iff.1 hget.symm
  exact ⟨old, hold,
    congrArg (fun n : NamespaceSummary => { n with license := ns.license }) hsame.symm⟩

/-! ### Updates -/

namespace Update

variable {ε ε' α β : Type}

/-- An update that writes license figures only: whether it fails or not, everything else in the
summary stays as it was. -/
def WritesLicensesOnly (x : Update ε α) : Prop :=
  ∀ s, (x.after s).withoutLicenses = s.withoutLicenses

namespace WritesLicensesOnly

theorem pure (a : α) : WritesLicensesOnly (Pure.pure a : Update ε α) := fun _ => rfl

theorem throw (e : ε) : WritesLicensesOnly (MonadExcept.throw e : Update ε α) := fun _ => rfl

theorem ofExcept (r : Except ε α) : WritesLicensesOnly (MonadExcept.ofExcept r : Update ε α) := by
  cases r with
  | error e => exact throw e
  | ok a => exact pure a

theorem modify {f : Summary → Summary} (h : ∀ s, (f s).withoutLicenses = s.withoutLicenses) :
    WritesLicensesOnly (modify f : Update ε PUnit) := h

/-- What one update writes, and what the next one does, is all that both write. -/
theorem bind {x : Update ε α} {f : α → Update ε β} (hx : x.WritesLicensesOnly)
    (hf : ∀ a, (f a).WritesLicensesOnly) : WritesLicensesOnly (x >>= f) := by
  intro s
  have hfirst := hx s
  unfold after at hfirst ⊢
  rw [EStateM.run_bind]
  cases hrun : x.run s with
  | error e t =>
      rw [hrun] at hfirst
      exact hfirst
  | ok a t =>
      rw [hrun] at hfirst
      exact (hf a t).trans hfirst

/-- An update that is not made to fail writes what it wrote before. -/
theorem attempt {x : Update ε α} (hx : x.WritesLicensesOnly) :
    WritesLicensesOnly (x.attempt : Update ε' (Except ε α)) := by
  intro s
  have h := hx s
  unfold after at h ⊢
  rw [run_attempt]
  cases hrun : x.run s <;> rw [hrun] at h <;> exact h

end WritesLicensesOnly

end Update

end Summary

/-! ### The samples of the agent -/

open Summary.Update

namespace UsagePass

theorem writesLicensesOnly_addEntry (allowUnstable : Bool) (pass : UsagePass) (e : AgentEntry) :
    (pass.addEntry allowUnstable e).WritesLicensesOnly := by
  refine .bind (.ofExcept _) fun counts => ?_
  cases counts with
  | false => exact .pure pass
  | true =>
      cases e.uniqueBytes with
      | none => exact .throw _
      | some bytes =>
          exact .bind (.ofExcept _) fun cluster => .bind (.ofExcept _) fun namespaces => .pure _

theorem writesLicensesOnly_addEntries (allowUnstable : Bool) (pass : UsagePass)
    (entries : List AgentEntry) :
    (addEntries allowUnstable pass entries).WritesLicensesOnly := by
  induction entries generalizing pass with
  | nil => exact .pure pass
  | cons e rest ih =>
      exact .bind (writesLicensesOnly_addEntry allowUnstable pass e) fun pass => ih pass

/-- A pass that is committed writes the figures of the cluster and of its namespaces. -/
theorem writesLicensesOnly_commit (pass : UsagePass) : pass.commit.WritesLicensesOnly := by
  refine .bind (.modify fun s => s.withoutLicenses_setClusterLicense _) fun _ => .modify fun s => ?_
  exact List.foldlRecOn
    (motive := fun t : Summary => t.withoutLicenses = s.withoutLicenses) _ _ rfl
    fun t ht entry _ => (t.withoutLicenses_setNamespaceLicense _ _).trans ht

end UsagePass

namespace Licenses

theorem writesLicensesOnly_fillFromAgent (allowUnstable : Bool) (response : AgentResponse) :
    (fillFromAgent allowUnstable response).WritesLicensesOnly := by
  refine .bind (UsagePass.writesLicensesOnly_addEntries allowUnstable {} _) fun pass => ?_
  split
  case isTrue => exact .pure false
  case isFalse => exact .bind pass.writesLicensesOnly_commit fun _ => .pure true

theorem writesLicensesOnly_fillFromDocument (allowUnstable : Bool) (document : Json) :
    (fillFromDocument allowUnstable document).WritesLicensesOnly := by
  unfold fillFromDocument
  split
  · exact .throw _
  · exact writesLicensesOnly_fillFromAgent allowUnstable _

/-! ### Estimates -/

theorem writesLicensesOnly_addEstimates (builds : Dict String)
    (estimates : List (String × Binary64)) (namespaces : List (String × NodeStats)) :
    (addEstimates builds estimates namespaces).WritesLicensesOnly := by
  induction namespaces generalizing estimates with
  | nil => exact .pure estimates
  | cons entry rest ih =>
      refine .bind ?_ fun estimates => ih estimates
      unfold addEstimate
      split
      case isTrue => exact .pure estimates
      case isFalse => exact .bind (.ofExcept _) fun estimate => .pure _

theorem writesLicensesOnly_setEstimates (total : Binary64)
    (estimates : List (String × Binary64)) :
    (setEstimates total estimates).WritesLicensesOnly := by
  induction estimates generalizing total with
  | nil => exact .pure total
  | cons entry rest ih =>
      exact .bind (.modify fun s => s.withoutLicenses_setNamespaceLicense _ _) fun _ => ih _

theorem writesLicensesOnly_fillFromStats (builds : Dict String) (stats : Dict NodeStats) :
    (fillFromStats builds stats).WritesLicensesOnly :=
  .bind (writesLicensesOnly_addEstimates builds [] _) fun estimates =>
    .bind (writesLicensesOnly_setEstimates _ estimates) fun _ =>
      .modify fun s => s.withoutLicenses_setClusterLicense _

/-- **Whatever the license figures are computed from, they are all that is written**, and so they
are if they cannot be computed. -/
theorem writesLicensesOnly_fill (builds : Dict String) (stats : Dict NodeStats)
    (agent : Option Json) (allowUnstable : Bool) :
    (fill builds stats agent allowUnstable).WritesLicensesOnly := by
  unfold fill
  split
  case h_1 => exact writesLicensesOnly_fillFromStats builds stats
  case h_2 document _ =>
    refine .bind (.attempt (writesLicensesOnly_fillFromDocument allowUnstable document))
      fun outcome => ?_
    split
    · exact .pure ()
    · exact writesLicensesOnly_fillFromStats builds stats
    · exact writesLicensesOnly_fillFromStats builds stats

end Licenses
end ClusterReport
