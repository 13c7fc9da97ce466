/-
**Fetched data.**

Whatever is asked of a node, a namespace or a set comes back as data or as the cause of a failure.
Captured documents write a failure as an object with the single field `error`, a text, or as an
array of one text; everything else is data.

Main definitions:

* `ClusterReport.Fetched` — data, or the cause of a failed fetch;
* `ClusterReport.Stats` — the attributes one node reported;
* `ClusterReport.Keyed`, `NodeStats`, `NamespaceStats`, `SetStats` — fetched data by key, to three
  levels;
* `ClusterReport.Fetched.ofJson?`, `ClusterReport.Keyed.ofJson?` — reading captured documents;
* `ClusterReport.Keyed.usable` — the entries that were fetched and are not empty.

Main results:

* `ClusterReport.Keyed.get?_usable` — which entries are usable.
-/

import ClusterReport.Json.Basic

set_option relaxedAutoImplicit false
set_option autoImplicit false

universe u v

namespace ClusterReport

/-- What a fetch came back with: data, or the cause of its failure. -/
inductive Fetched (α : Type u) where
  | failed (cause : String)
  | data (value : α)
deriving DecidableEq

/-- The attributes that one node reported, by name. -/
abbrev Stats := Dict Json

/-- Fetched data by key, for instance by node or by namespace. -/
abbrev Keyed (α : Type u) := Dict (Fetched α)

/-- Attributes by node. -/
abbrev NodeStats := Keyed Stats

/-- Attributes by node and namespace; those of replication targets have the same shape. -/
abbrev NamespaceStats := Keyed (Keyed Stats)

/-- Attributes by node, namespace and set. -/
abbrev SetStats := Keyed (Keyed (Keyed Stats))

namespace Fetched

variable {α : Type u} {β : Type v}

def data? : Fetched α → Option α
  | data value => some value
  | failed _ => none

@[simp] theorem data?_data (value : α) : (data value).data? = some value := rfl

@[simp] theorem data?_failed (cause : String) : (failed cause : Fetched α).data? = none := rfl

def map (f : α → β) : Fetched α → Fetched β
  | failed cause => failed cause
  | data value => data (f value)

/-! ### Documents -/

/-- The cause that a document states if it is a written failure. -/
def causeOf? : Json → Option String
  | .object [("error", .str cause)] => some cause
  | .array [.str cause] => some cause
  | _ => none

/-- A document as a failure if it is one, and otherwise as data. -/
def ofJson? (read : Json → Option α) (j : Json) : Option (Fetched α) :=
  match causeOf? j with
  | some cause => some (failed cause)
  | none => (read j).map data

def toJson (write : α → Json) : Fetched α → Json
  | failed cause => .object [("error", .str cause)]
  | data value => write value

end Fetched

/-- Attributes are read from any object. -/
def Stats.ofJson? : Json → Option Stats
  | .object fields => some (.ofList (Json.canonicalFields fields))
  | _ => none

def Stats.toJson (s : Stats) : Json := .ofDict s

namespace Keyed

variable {α : Type u}

/-- Fetched data is read from an object whose values all read. -/
def ofJson? (read : Json → Option α) : Json → Option (Keyed α)
  | .object fields => (Entries.mapOption (Fetched.ofJson? read) fields).map .ofList
  | _ => none

def toJson (write : α → Json) (d : Keyed α) : Json :=
  .ofDict (d.map fun _ f => f.toJson write)

def data? (d : Keyed α) (key : String) : Option α := (d.get? key).bind Fetched.data?

def fetched (d : Keyed α) : Dict α := d.filterMap fun _ f => f.data?

/-- The entries that were fetched and carry at least one attribute. -/
def usable (d : Keyed Stats) : Dict Stats :=
  d.filterMap fun _ f => f.data?.filter fun s => !s.isEmpty

/-- The usable entry under a key is the one that was fetched and is not empty. -/
theorem get?_usable (d : Keyed Stats) (key : String) :
    d.usable.get? key = (d.data? key).filter fun s => !s.isEmpty := by
  simp only [usable, Dict.get?_filterMap, data?]
  cases d.get? key <;> rfl

end Keyed

/-- Attributes by node, read from a document. -/
def NodeStats.ofJson? : Json → Option NodeStats := Keyed.ofJson? Stats.ofJson?

/-- Attributes by node and namespace, read from a document. -/
def NamespaceStats.ofJson? : Json → Option NamespaceStats := Keyed.ofJson? NodeStats.ofJson?

/-- Attributes by node, namespace and set, read from a document. -/
def SetStats.ofJson? : Json → Option SetStats := Keyed.ofJson? NamespaceStats.ofJson?

def NodeStats.toJson : NodeStats → Json := Keyed.toJson Stats.toJson

def NamespaceStats.toJson : NamespaceStats → Json := Keyed.toJson NodeStats.toJson

def SetStats.toJson : SetStats → Json := Keyed.toJson NamespaceStats.toJson

end ClusterReport
