/-
**Records in JSON documents.**

A record has a fixed list of named fields.  It is written as an object, in which fields of other
names are passed over and no field may be repeated, or as an array of its fields in order.  The
outline of a document says where records stand in it.

Main definitions:

* `ClusterReport.Json.Outline` — what of a document is used;
* `ClusterReport.Json.record?` — the fields of a record that are present;
* `ClusterReport.Json.required?`, `ClusterReport.Json.defaulted?` — one field read.
-/

import ClusterReport.Json.Basic

set_option relaxedAutoImplicit false
set_option autoImplicit false

universe u

namespace ClusterReport.Json

/-- What of a document is used: all of it, or the fields of a record, along outlines of their
own. -/
inductive Outline where
  | whole
  | record (fields : List (String × Outline))

namespace Outline

/-- A record whose fields are used as a whole. -/
def ofNames (names : List String) : Outline := .record (names.map (·, .whole))

def names : Outline → List String
  | whole => []
  | record fields => fields.map (·.1)

/-- The outline of a field of an object, if it is used. -/
def ofField? (key : String) : Outline → Option Outline
  | whole => some whole
  | record fields => Entries.get? key fields

/-- The outlines of the items of an array, as far as they are known. -/
def ofItems : Outline → List Outline
  | whole => []
  | record fields => fields.map (·.2)

end Outline

/-- The fields of a record that are present in a document. -/
def record? (names : List String) : Json → Option (List (String × Json))
  | .object fields =>
    let known := fields.filter fun f => names.contains f.1
    if known.Pairwise fun f g => f.1 ≠ g.1 then some known else none
  | .array items => if items.length ≤ names.length then some (names.zip items) else none
  | _ => none

/-- A field that must be there. -/
def required? {α : Type u} (name : String) (read : Json → Option α)
    (fields : List (String × Json)) : Option α :=
  (Entries.get? name fields).bind read

/-- A field that may be missing. -/
def defaulted? {α : Type u} (name : String) (default : α) (read : Json → Option α)
    (fields : List (String × Json)) : Option α :=
  match Entries.get? name fields with
  | some value => read value
  | none => some default

def text? : Json → Option String
  | .str s => some s
  | _ => none

def truth? : Json → Option Bool
  | .bool b => some b
  | _ => none

def int64? : Json → Option Int
  | .int n => if Integer.fitsInt64 n then some n else none
  | _ => none

def nat64? : Json → Option Nat
  | .int n => if 0 ≤ n then some n.toNat else none
  | _ => none

def nullable? {α : Type u} (read : Json → Option α) : Json → Option (Option α)
  | .null => some none
  | j => (read j).map some

def list? {α : Type u} (read : Json → Option α) : Json → Option (List α)
  | .array items => items.mapM read
  | _ => none

def dict? {α : Type u} (read : Json → Option α) : Json → Option (Dict α)
  | .object fields => (Entries.mapOption read fields).map .ofList
  | _ => none

end ClusterReport.Json
