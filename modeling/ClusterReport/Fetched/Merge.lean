/-
**Merging fetched data.**

Statistics and configurations of one node are merged into one map: objects are merged key by key to
any depth, and where both sides say something about a leaf the second side, the overlay, wins.  A
failure on either side is not merged into: whatever the overlay came back with stands.

Main definitions:

* `ClusterReport.Json.merge` — two documents merged;
* `ClusterReport.Fetched.merge`, `ClusterReport.Keyed.merge` — fetched data merged;
* `ClusterReport.Stats.merge`, `NodeStats.merge`, `NamespaceStats.merge`, `SetStats.merge`.

Main results:

* `ClusterReport.Keyed.get?_merge` — what a key of merged data holds;
* `ClusterReport.Json.merge_of_not_object` — an overlay that is no object replaces the base.
-/

import ClusterReport.Fetched.Basic

set_option relaxedAutoImplicit false
set_option autoImplicit false

universe u

namespace ClusterReport

namespace Json

mutual

/-- Two documents merged; the overlay wins wherever one of the two is no object. -/
def merge (base : Json) : Json → Json
  | .object theirs =>
    match base with
    | .object mine => .object (mergeFields mine theirs)
    | _ => .object theirs
  | overlay => overlay

/-- The fields of an object with those of another one merged in. -/
def mergeFields (mine : List (String × Json)) : List (String × Json) → List (String × Json)
  | [] => mine
  | (key, value) :: rest =>
    let merged := match Entries.get? key mine with
      | some old => merge old value
      | none => value
    mergeFields (Entries.insert key merged mine) rest

end

def isObject : Json → Bool
  | .object _ => true
  | _ => false

/-- An overlay that is no object replaces the base. -/
theorem merge_of_not_object (base overlay : Json) (h : overlay.isObject = false) :
    merge base overlay = overlay := by
  cases overlay <;> simp_all [merge, isObject]

/-- An object replaces a base that is none. -/
theorem merge_object_of_not_object (base : Json) (theirs : List (String × Json))
    (h : base.isObject = false) : merge base (.object theirs) = .object theirs := by
  cases base <;> simp_all [merge, isObject]

end Json

/-- Attributes merged key by key. -/
def Stats.merge : Stats → Stats → Stats := Dict.mergeWith Json.merge

/-- Data merged with data; in every other case what the overlay came back with. -/
def Fetched.merge {α : Type u} (combine : α → α → α) : Fetched α → Fetched α → Fetched α
  | data mine, data theirs => data (combine mine theirs)
  | _, overlay => overlay

/-- Fetched data merged key by key. -/
def Keyed.merge {α : Type u} (combine : α → α → α) : Keyed α → Keyed α → Keyed α :=
  Dict.mergeWith (Fetched.merge combine)

/-- What a key of merged data holds. -/
theorem Keyed.get?_merge {α : Type u} (combine : α → α → α) (base overlay : Keyed α)
    (key : String) :
    (Keyed.merge combine base overlay).get? key =
      Option.merge (Fetched.merge combine) (base.get? key) (overlay.get? key) :=
  Dict.get?_mergeWith _ base overlay key

/-- Attributes by node, merged. -/
def NodeStats.merge : NodeStats → NodeStats → NodeStats := Keyed.merge Stats.merge

/-- Attributes by node and namespace, merged. -/
def NamespaceStats.merge : NamespaceStats → NamespaceStats → NamespaceStats :=
  Keyed.merge NodeStats.merge

/-- Attributes by node, namespace and set, merged. -/
def SetStats.merge : SetStats → SetStats → SetStats := Keyed.merge NamespaceStats.merge

end ClusterReport
