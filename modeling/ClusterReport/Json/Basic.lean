/-
**JSON documents.**

A document is null, a truth value, a number, a text, an array or an object.  Whole numbers written
without point and exponent are kept apart from the other numbers, which are binary floating point.
An object lists its fields; a document is canonical when every object in it lists them in strictly
increasing key order, which is also the order in which captured data is written.

Main definitions:

* `ClusterReport.Json` — documents;
* `ClusterReport.Json.canonical` — a document with every object in key order, the last of several
  fields with one key staying;
* `ClusterReport.Json.Canonical` — the documents in that form;
* `ClusterReport.Json.field?` — a field of an object.

Main results:

* `ClusterReport.Json.canonical_isCanonical` — bringing a document into key order succeeds.
-/

import ClusterReport.Binary64.Basic
import ClusterReport.Dict

set_option relaxedAutoImplicit false
set_option autoImplicit false

namespace ClusterReport

/-- A JSON document. -/
inductive Json where
  | null
  | bool (value : Bool)
  | int (value : Int)
  | float (value : Binary64)
  | str (value : String)
  | array (items : List Json)
  | object (fields : List (String × Json))

namespace Json

instance : Inhabited Json := ⟨null⟩

def isNull : Json → Bool
  | null => true
  | _ => false

theorem isNull_eq_false_iff {j : Json} : j.isNull = false ↔ j ≠ .null := by
  cases j <;> simp [isNull]

/-! ### Canonical form -/

mutual

/-- The document with the fields of every object in key order. -/
def canonical : Json → Json
  | .array items => .array (canonicalItems items)
  | .object fields => .object (Entries.normalise (canonicalFields fields))
  | other => other

/-- The items of an array, each in canonical form. -/
def canonicalItems : List Json → List Json
  | [] => []
  | item :: rest => canonical item :: canonicalItems rest

/-- The fields of an object in the given order, each value in canonical form. -/
def canonicalFields : List (String × Json) → List (String × Json)
  | [] => []
  | (key, value) :: rest => (key, canonical value) :: canonicalFields rest

end

/-- The documents in which every object lists its fields in strictly increasing key order. -/
inductive Canonical : Json → Prop where
  | null : Canonical .null
  | bool (value : Bool) : Canonical (.bool value)
  | int (value : Int) : Canonical (.int value)
  | float (value : Binary64) : Canonical (.float value)
  | str (value : String) : Canonical (.str value)
  | array (items : List Json) (each : ∀ item ∈ items, Canonical item) : Canonical (.array items)
  | object (fields : List (String × Json)) (sorted : Entries.Sorted fields)
      (each : ∀ field ∈ fields, Canonical field.2) : Canonical (.object fields)

private theorem mem_insertNew {key : String} {value : Json} {es : List (String × Json)}
    {e : String × Json} (h : e ∈ Entries.insertNew key value es) : e = (key, value) ∨ e ∈ es := by
  induction es with
  | nil => simpa [Entries.insertNew] using h
  | cons e' rest ih =>
    obtain ⟨k, v⟩ := e'
    unfold Entries.insertNew at h
    grind

private theorem mem_normalise {es : List (String × Json)} {e : String × Json}
    (h : e ∈ Entries.normalise es) : e ∈ es := by
  induction es with
  | nil => simp [Entries.normalise] at h
  | cons e' rest ih =>
    rcases mem_insertNew (by simpa [Entries.normalise] using h) with rfl | h
    · simp
    · exact List.mem_cons_of_mem _ (ih h)

mutual

/-- Bringing a document into key order succeeds. -/
theorem canonical_isCanonical : ∀ j : Json, Canonical (canonical j)
  | .null => by rw [canonical]; exact .null; all_goals simp
  | .bool _ => by rw [canonical]; exact .bool _; all_goals simp
  | .int _ => by rw [canonical]; exact .int _; all_goals simp
  | .float _ => by rw [canonical]; exact .float _; all_goals simp
  | .str _ => by rw [canonical]; exact .str _; all_goals simp
  | .array items => by
    rw [canonical]
    exact .array _ (canonicalItems_each items)
  | .object fields => by
    rw [canonical]
    exact .object _ (Entries.sorted_normalise _) fun field h =>
      canonicalFields_each fields field (mem_normalise h)

theorem canonicalItems_each : ∀ (items : List Json), ∀ item ∈ canonicalItems items, Canonical item
  | [] => by simp [canonicalItems]
  | item :: rest => by
    intro x hx
    rw [canonicalItems] at hx
    rcases List.mem_cons.mp hx with rfl | hx
    · exact canonical_isCanonical item
    · exact canonicalItems_each rest x hx

theorem canonicalFields_each :
    ∀ (fields : List (String × Json)), ∀ field ∈ canonicalFields fields, Canonical field.2
  | [] => by simp [canonicalFields]
  | (key, value) :: rest => by
    intro x hx
    rw [canonicalFields] at hx
    rcases List.mem_cons.mp hx with rfl | hx
    · exact canonical_isCanonical value
    · exact canonicalFields_each rest x hx

end

/-! ### Access -/

/-- The value of a field of an object. -/
def field? (key : String) : Json → Option Json
  | .object fields => Entries.get? key fields
  | _ => none

def toDict? : Json → Option (Dict Json)
  | .object fields => some (.ofList fields)
  | _ => none

def ofDict (d : Dict Json) : Json := .object d.entries

end Json
end ClusterReport
