/-
**Attributes.**

Server releases have renamed many statistics and settings over the years.  An attribute is one
logical figure with all its spellings in the order in which they are looked up; the first spelling
that is present decides, even when its value turns out to be unusable.

Main definitions:

* `ClusterReport.Attribute` — a name and the spellings;
* `ClusterReport.Attribute.raw?` — the value under the first spelling that is present;
* `ClusterReport.Attribute.int?`, `number?`, `truth?`, `text?` — the value read as a type;
* `ClusterReport.Attribute.collect`, `collectOption` — one reading from every usable node;
* `ClusterReport.addCounts`, `ClusterReport.shareOfTotals` — arithmetic on figures by node.

Main results:

* `ClusterReport.Attribute.raw?_cons_present`, `ClusterReport.Attribute.raw?_cons_missing` — which
  spelling decides.
-/

import ClusterReport.Attribute.Reported

set_option relaxedAutoImplicit false
set_option autoImplicit false

universe u

namespace ClusterReport

/-- A logical figure with its spellings in lookup order. -/
structure Attribute where
  name : String
  spellings : List String
deriving DecidableEq

namespace Attribute

/-- The value under the first spelling that is present; a null ends the search. -/
def raw? (a : Attribute) (stats : Stats) : Option Json := do
  let key ← a.spellings.find? stats.contains
  match stats.get? key with
  | some .null => none
  | none => none
  | some value => some value

/-- A spelling that is missing leaves the decision to the later ones. -/
theorem raw?_cons_missing (stats : Stats) (name key : String) (rest : List String)
    (h : stats.get? key = none) :
    raw? ⟨name, key :: rest⟩ stats = raw? ⟨name, rest⟩ stats := by
  have hcontains : stats.contains key = false := by rw [Dict.contains, h, Option.isSome_none]
  rw [raw?, List.find?_cons, hcontains, raw?]

/-- A spelling that is present decides. -/
theorem raw?_cons_present (stats : Stats) (name key : String) (rest : List String) (value : Json)
    (h : stats.get? key = some value) :
    raw? ⟨name, key :: rest⟩ stats = if value.isNull then none else some value := by
  have hcontains : stats.contains key = true := by rw [Dict.contains, h, Option.isSome_some]
  rw [raw?, List.find?_cons, hcontains]
  cases value <;> simp [h, Json.isNull]

/-- The attribute read as an integer. -/
def int? (a : Attribute) (stats : Stats) : Option Int := (a.raw? stats).bind Json.toInt?

theorem fitsInt64_of_int? {a : Attribute} {stats : Stats} {n : Int}
    (h : a.int? stats = some n) : Integer.fitsInt64 n = true := by
  obtain ⟨value, -, hvalue⟩ := Option.bind_eq_some_iff.1 h
  exact Json.fitsInt64_of_toInt? hvalue

/-- The attribute read as a binary number. -/
def number? (a : Attribute) (stats : Stats) : Option Binary64 := (a.raw? stats).bind Json.toNumber?

/-- The attribute read as a truth value. -/
def truth? (a : Attribute) (stats : Stats) : Option Bool := (a.raw? stats).bind Json.toTruth?

/-- The attribute read as a text. -/
def text? (a : Attribute) (stats : Stats) : Option String := (a.raw? stats).bind Json.toText?

/-- One reading from every usable entry, the default where there is none. -/
def collect {α : Type u} (read : Stats → Option α) (data : Keyed Stats) (default : α) : Dict α :=
  data.usable.map fun _ stats => (read stats).getD default

/-- One reading from every usable entry. -/
def collectOption {α : Type u} (read : Stats → Option α) (data : Keyed Stats) : Dict (Option α) :=
  data.usable.map fun _ stats => read stats

end Attribute

/-- Figures by node added up. -/
def addCounts (a b : Dict Int) : Dict Int := a.mergeWith (· + ·) b

/-- Percentages of totals as absolute figures; a total without a percentage is dropped. -/
def shareOfTotals (totals percentages : Dict Int) : Dict Binary64 :=
  totals.filterMap fun key total =>
    (percentages.get? key).map fun percentage =>
      .ofInt total / .ofInt 100 * .ofInt percentage

end ClusterReport
