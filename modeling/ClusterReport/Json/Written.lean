/-
**What a JSON text says.**

The tokens of a text are put together by a machine with a stack of unfinished arrays and objects,
one token at a time.  The result is a tree that follows the text: the fields of an object stand in
the order of the text, several with one key included, and a text or a number that has no value
still has its place.  Which part of the tree is used, and so has to have a value, is decided later.

Main definitions:

* `ClusterReport.Json.Written` — the tree;
* `ClusterReport.Json.Frame` — an unfinished array, object or field;
* `ClusterReport.Json.written?` — the tree that a text stands for.
-/

import ClusterReport.Json.Token

set_option relaxedAutoImplicit false
set_option autoImplicit false

namespace ClusterReport.Json

/-- What a text says; leaves and keys may have no value. -/
inductive Written where
  | leaf (value : Option Json)
  | array (items : List Written)
  | object (fields : List (Option String × Written))

/-- An array, an object, or an object's field whose value is still to come; items and fields are
held in reverse order. -/
inductive Frame where
  | array (items : List Written)
  | object (fields : List (Option String × Written))
  | field (key : Option String) (fields : List (Option String × Written))

/-- What the machine reads next. -/
inductive Expect where
  | value
  | firstItem
  | firstKey
  | key
  | colon (key : Option String)
  | separator
  | nothing (tree : Written)

/-- The machine: what it expects, and the frames it is in, innermost first. -/
structure Machine where
  expect : Expect
  stack : List Frame

/-- A value has been read. -/
def Machine.complete (value : Written) : List Frame → Option Machine
  | [] => some ⟨.nothing value, []⟩
  | .array items :: rest => some ⟨.separator, .array (value :: items) :: rest⟩
  | .field key fields :: rest => some ⟨.separator, .object ((key, value) :: fields) :: rest⟩
  | .object _ :: _ => none

/-- A token where a value may stand. -/
def Machine.stepValue (stack : List Frame) : Token → Option Machine
  | .openArray => some ⟨.firstItem, .array [] :: stack⟩
  | .openObject => some ⟨.firstKey, .object [] :: stack⟩
  | .text s => complete (.leaf (s.map .str)) stack
  | .leaf v => complete (.leaf v) stack
  | _ => none

def Machine.step (m : Machine) (t : Token) : Option Machine :=
  match m.expect, t, m.stack with
  | .firstItem, .closeArray, .array items :: rest => complete (.array items.reverse) rest
  | .firstItem, _, stack => stepValue stack t
  | .value, _, stack => stepValue stack t
  | .firstKey, .closeObject, .object fields :: rest => complete (.object fields.reverse) rest
  | .firstKey, .text key, stack => some ⟨.colon key, stack⟩
  | .key, .text key, stack => some ⟨.colon key, stack⟩
  | .colon key, .colon, .object fields :: rest => some ⟨.value, .field key fields :: rest⟩
  | .separator, .closeArray, .array items :: rest => complete (.array items.reverse) rest
  | .separator, .comma, .array items :: rest => some ⟨.value, .array items :: rest⟩
  | .separator, .closeObject, .object fields :: rest => complete (.object fields.reverse) rest
  | .separator, .comma, .object fields :: rest => some ⟨.key, .object fields :: rest⟩
  | _, _, _ => none

/-- The tree that a text stands for. -/
def written? (s : String) : Option Written := do
  let ts ← tokens? s.toList
  let m ← ts.foldlM Machine.step ⟨.value, []⟩
  match m.expect with
  | .nothing tree => some tree
  | _ => none

end ClusterReport.Json
