/-
**Reading JSON text.**

A document is read from a text along an outline, which says what of it is used.  What is used has
to have a value and may be nested only so deep.  What is passed over, the value of a field that a
record does not have, only has to follow the grammar.  The document lists the fields of its
objects in the order of the text, several with one key included; `ClusterReport.Json.canonical`
brings them into key order.

Main definitions:

* `ClusterReport.Json.maxDepth` — how deep arrays and objects may be nested;
* `ClusterReport.Json.Written.value?` — the value of what a text says, along an outline;
* `ClusterReport.Json.ofText?` — the document that a text stands for.
-/

import ClusterReport.Json.Record
import ClusterReport.Json.Written

set_option relaxedAutoImplicit false
set_option autoImplicit false

namespace ClusterReport.Json

/-- The deepest nesting of arrays and objects. -/
def maxDepth : Nat := 127

namespace Written

mutual

/-- The value of what a text says, of which the outline is used, nested up to a depth. -/
def value? : Written → Outline → (depth : Nat) → Option Json
  | .leaf value, _, _ => value
  | .array _, _, 0 => none
  | .array items, o, depth + 1 => (readItems? items o.ofItems depth).map .array
  | .object _, _, 0 => none
  | .object fields, o, depth + 1 => (readFields? fields o depth).map .object

/-- The values of items, each along its own outline as far as there are any. -/
def readItems? : List Written → List Outline → (depth : Nat) → Option (List Json)
  | [], _, _ => some []
  | item :: rest, os, depth => do
    let value ← value? item (os.headD .whole) depth
    let values ← readItems? rest os.tail depth
    some (value :: values)

/-- The fields that the outline has, in the given order; every key has to have a value. -/
def readFields? : List (Option String × Written) → Outline → (depth : Nat) →
    Option (List (String × Json))
  | [], _, _ => some []
  | (none, _) :: _, _, _ => none
  | (some key, w) :: rest, o, depth =>
    match o.ofField? key with
    | none => readFields? rest o depth
    | some inner => do
      let value ← value? w inner depth
      let values ← readFields? rest o depth
      some ((key, value) :: values)

end

end Written

/-- The document that a text stands for, of which the outline is used, with its fields in the
order of the text. -/
def ofText? (s : String) (o : Outline := .whole) : Option Json :=
  (written? s).bind fun w => w.value? o maxDepth

end ClusterReport.Json
