/-
**Filling in license figures.**

License figures are written into a summary while they are computed: those of the cluster, and those
of the namespaces that the summary lists.  A computation that does so may fail, and then leaves what
it has written so far.

Main definitions:

* `ClusterReport.Summary.setClusterLicense`, `setNamespaceLicense` — the license figures of the
  cluster, or of a namespace, replaced;
* `ClusterReport.Summary.Update` — a computation that writes into a summary as it goes.

Main results:

* `ClusterReport.Summary.get?_setNamespaceLicense`, `get?_foldl_setNamespaceLicense` — only the
  figures of a listed namespace are replaced.
-/

import ClusterReport.Summary.Basic

set_option relaxedAutoImplicit false
set_option autoImplicit false

universe u

namespace ClusterReport.Summary

/-! ### Figures -/

/-- The license figures of a namespace that is listed. -/
def licenseOf? (s : Summary) (name : String) : Option LicenseUsage :=
  (s.namespaces.get? name).map NamespaceSummary.license

/-- The summary with other license figures of the cluster. -/
def setClusterLicense (s : Summary) (usage : LicenseUsage) : Summary :=
  { s with cluster := { s.cluster with license := usage } }

/-- The summary with other license figures of a namespace, if the namespace is listed. -/
def setNamespaceLicense (s : Summary) (name : String) (usage : LicenseUsage) : Summary :=
  match s.namespaces.get? name with
  | none => s
  | some ns => { s with namespaces := s.namespaces.insert name { ns with license := usage } }

@[simp] theorem cluster_setNamespaceLicense (s : Summary) (name : String) (usage : LicenseUsage) :
    (s.setNamespaceLicense name usage).cluster = s.cluster := by
  unfold setNamespaceLicense
  split <;> rfl

/-- Only a listed namespace gets other figures. -/
theorem get?_setNamespaceLicense (s : Summary) (name other : String) (usage : LicenseUsage) :
    (s.setNamespaceLicense name usage).namespaces.get? other =
      (s.namespaces.get? other).map fun ns =>
        if other = name then { ns with license := usage } else ns := by
  unfold setNamespaceLicense
  split
  case h_1 hnone =>
    by_cases hother : other = name
    · rw [hother, hnone, Option.map_none]
    · simp only [if_neg hother, Option.map_id']
  case h_2 ns hns =>
    rw [Dict.get?_insert]
    by_cases hother : other = name
    · simp only [hother, if_true, hns, Option.map_some]
    · simp only [if_neg hother, Option.map_id']

theorem cluster_foldl_setNamespaceLicense {α : Type u} (es : List (String × α))
    (usage : α → LicenseUsage) (s : Summary) :
    (es.foldl (fun s e => s.setNamespaceLicense e.1 (usage e.2)) s).cluster = s.cluster := by
  induction es generalizing s with
  | nil => rfl
  | cons e rest ih => exact (ih _).trans (cluster_setNamespaceLicense s e.1 (usage e.2))

/-- Figures that are written for some namespaces are found where these are listed. -/
theorem get?_foldl_setNamespaceLicense {α : Type u} {es : List (String × α)}
    (hes : Entries.Sorted es) (usage : α → LicenseUsage) (s : Summary) (name : String) :
    (es.foldl (fun s e => s.setNamespaceLicense e.1 (usage e.2)) s).namespaces.get? name =
      (s.namespaces.get? name).map fun ns =>
        { ns with license := ((Entries.get? name es).map usage).getD ns.license } := by
  induction es generalizing s with
  | nil => exact (congrFun Option.map_id _).symm
  | cons e rest ih =>
      obtain ⟨hlt, hrest⟩ := List.pairwise_cons.1 hes
      rw [List.foldl_cons, ih hrest, get?_setNamespaceLicense, Option.map_map, Entries.get?_cons]
      by_cases hname : name = e.1
      · rw [hname, Entries.get?_eq_none_of_lt hlt, if_pos rfl]
        simp [Function.comp_def]
      · rw [if_neg hname]
        simp [Function.comp_def, hname]

/-! ### Updates -/

/-- A computation that writes into a summary as it goes, and may fail; what it has written before it
fails stays written. -/
abbrev Update (ε α : Type) : Type := EStateM ε Summary α

namespace Update

variable {ε ε' α : Type}

/-- The update that does not fail, but says whether another one did, and why. -/
def attempt (x : Update ε α) : Update ε' (Except ε α) := fun s =>
  match x.run s with
  | .ok a s => .ok (.ok a) s
  | .error e s => .ok (.error e) s

instance [DecidableEq ε] [DecidableEq α] : DecidableEq (EStateM.Result ε Summary α)
  | .ok a s, .ok b t => decidable_of_iff (a = b ∧ s = t) (by rw [EStateM.Result.ok.injEq])
  | .error e s, .error f t => decidable_of_iff (e = f ∧ s = t) (by rw [EStateM.Result.error.injEq])
  | .ok _ _, .error _ _ => isFalse nofun
  | .error _ _, .ok _ _ => isFalse nofun

/-- The summary after an update, whether it failed or not. -/
def after (x : Update ε α) (s : Summary) : Summary :=
  match x.run s with
  | .ok _ s => s
  | .error _ s => s

@[simp] theorem run_ofExcept (r : Except ε α) (s : Summary) :
    (ofExcept r : Update ε α).run s =
      match r with
      | .ok a => .ok a s
      | .error e => .error e s := by
  cases r <;> rfl

@[simp] theorem run_attempt (x : Update ε α) (s : Summary) :
    (attempt x : Update ε' (Except ε α)).run s =
      match x.run s with
      | .ok a s => .ok (.ok a) s
      | .error e s => .ok (.error e) s := rfl

end Update

end ClusterReport.Summary
