/-
**License figures and the rest of a summary.**

The license figures are written into the summary before all other figures, and they may come from
the agent, from an estimate, or stay unknown.  No later step reads them: each one does the same to a
summary with its license figures and to one without, and so everything else in a summary is the same
whatever became of the license figures.

Main definitions:

* `ClusterReport.Rollup.withoutLicenses` — a summary with its totals so far, and no license figures.

Main results:

* `ClusterReport.Summary.withoutLicenses_fillLicenses` — the license figures are all that is filled
  in first;
* `ClusterReport.Rollup.withoutLicenses_addNamespace` — adding a namespace does not read them;
* `ClusterReport.Summary.withoutLicenses_rollUp` — neither does all that follows;
* `ClusterReport.Summary.withoutLicenses_create` — **the rest of a summary does not depend on what
  the license figures are computed from**.
-/

import ClusterReport.Proofs.License.Frame
import ClusterReport.Summary.Rollup

set_option relaxedAutoImplicit false
set_option autoImplicit false

namespace ClusterReport

namespace Summary

/-- What the license figures are computed from, and whether they can be computed, makes no
difference to everything else. -/
theorem withoutLicenses_fillLicenses (builds : Dict String) (nodes : Dict NodeStats)
    (agent : Option Json) (allowUnstable : Bool) (s : Summary) :
    (s.fillLicenses builds nodes agent allowUnstable).withoutLicenses = s.withoutLicenses :=
  Licenses.writesLicensesOnly_fill builds nodes agent allowUnstable s

/-! ### The steps that follow -/

theorem withoutLicenses_markMigration (s : Summary) (entry : String × NodeStats) :
    (s.markMigration entry).withoutLicenses = s.withoutLicenses.markMigration entry := by
  unfold markMigration
  split
  case isFalse => rfl
  case isTrue =>
    refine congrArg (Summary.mk _) (Dict.ext_get? fun name => ?_)
    rw [Dict.get?_map, Dict.get?_map, Dict.get?_map, get?_withoutLicenses, Option.map_map,
      Option.map_map]
    refine congrArg (Option.map · _) (funext fun ns => ?_)
    rw [Function.comp_apply, Function.comp_apply]
    split <;> rfl

theorem withoutLicenses_markMigrations (entries : List (String × NodeStats)) (s : Summary) :
    (entries.foldl markMigration s).withoutLicenses =
      entries.foldl markMigration s.withoutLicenses :=
  (List.foldl_hom withoutLicenses fun s entry =>
    (withoutLicenses_markMigration s entry).symm).symm

theorem withoutLicenses_identify (stats : ClusterStats) (metadata : ClusterMetadata) (s : Summary) :
    (s.identify stats metadata).withoutLicenses = s.withoutLicenses.identify stats metadata := rfl

end Summary

namespace Rollup

/-- A summary with its totals so far, and no license figures. -/
def withoutLicenses (r : Rollup) : Rollup := { r with summary := r.summary.withoutLicenses }

/-- **A namespace is added without regard to license figures.** -/
theorem withoutLicenses_addNamespace (configs : Dict NodeStats) (r : Rollup)
    (entry : String × NodeStats) :
    (r.addNamespace configs entry).withoutLicenses =
      r.withoutLicenses.addNamespace configs entry := by
  obtain ⟨name, nodes⟩ := entry
  cases hnodes : nodes.isEmpty with
  | true => rw [addNamespace, addNamespace, if_pos hnodes, if_pos hnodes]
  | false =>
      cases hns : r.summary.namespaces.get? name with
      | none =>
          have hother : r.withoutLicenses.summary.namespaces.get? name = none := by
            rw [withoutLicenses, Summary.get?_withoutLicenses, hns, Option.map_none]
          simp only [addNamespace, hnodes, hns, hother, Bool.false_eq_true, if_false]
      | some ns =>
          have hother : r.withoutLicenses.summary.namespaces.get? name =
              some ns.withoutLicense := by
            rw [withoutLicenses, Summary.get?_withoutLicenses, hns, Option.map_some]
          rw [addNamespace_of_get? configs r hnodes hns,
            addNamespace_of_get? configs r.withoutLicenses hnodes hother]
          -- the figures are written beside the license, whatever that is
          simp only [withoutLicenses, Summary.withoutLicenses, Dict.map_insert]
          rfl

theorem withoutLicenses_addNamespaces (configs : Dict NodeStats)
    (entries : List (String × NodeStats)) (r : Rollup) :
    (entries.foldl (addNamespace configs) r).withoutLicenses =
      entries.foldl (addNamespace configs) r.withoutLicenses :=
  (List.foldl_hom withoutLicenses fun r entry =>
    (withoutLicenses_addNamespace configs r entry).symm).symm

theorem withoutLicenses_close (nodeCount : Nat) (r : Rollup) :
    (r.close nodeCount).withoutLicenses = r.withoutLicenses.close nodeCount := rfl

end Rollup

namespace Summary

/-- **Everything but the license figures is filled in without regard to them.** -/
theorem withoutLicenses_rollUp (stats : ClusterStats) (metadata : ClusterMetadata) (s : Summary) :
    (s.rollUp stats metadata).withoutLicenses = s.withoutLicenses.rollUp stats metadata := by
  rw [rollUp, addNamespaces, Rollup.withoutLicenses_close, Rollup.withoutLicenses_addNamespaces,
    Rollup.withoutLicenses, withoutLicenses_identify, withoutLicenses_markMigrations]
  rfl

/-- The builds of the nodes are used for the license figures only. -/
theorem rollUp_builds (stats : ClusterStats) (metadata : ClusterMetadata) (builds : Dict String)
    (s : Summary) : s.rollUp stats { metadata with builds } = s.rollUp stats metadata := rfl

/-- **The rest of a summary does not depend on what the license figures are computed from**, and
neither do the namespaces that it lists. -/
theorem withoutLicenses_create (stats : ClusterStats) (metadata : ClusterMetadata)
    (builds builds' : Dict String) (agent agent' : Option Json)
    (allowUnstable allowUnstable' : Bool) :
    let summary := create stats { metadata with builds } agent allowUnstable
    let summary' := create stats { metadata with builds := builds' } agent' allowUnstable'
    summary.withoutLicenses = summary'.withoutLicenses ∧
      summary.namespaces.keys = summary'.namespaces.keys := by
  intro summary summary'
  have hsame (builds : Dict String) (agent : Option Json) (allowUnstable : Bool) :
      (create stats { metadata with builds } agent allowUnstable).withoutLicenses =
        (unknown (Keyed.flip stats.namespaces).keys).withoutLicenses.rollUp stats metadata := by
    rw [create, withoutLicenses_rollUp, rollUp_builds, withoutLicenses_fillLicenses]
  have hequal : summary.withoutLicenses = summary'.withoutLicenses :=
    (hsame builds agent allowUnstable).trans (hsame builds' agent' allowUnstable').symm
  have hkeys (s : Summary) : s.withoutLicenses.namespaces.keys = s.namespaces.keys :=
    Dict.keys_map _ _
  exact ⟨hequal, by rw [← hkeys summary, hequal, hkeys summary']⟩

end Summary
end ClusterReport
