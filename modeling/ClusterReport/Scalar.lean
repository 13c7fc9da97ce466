/-
**Scalars.**

A scalar is a displayable value: a truth value, an integer, a binary number or a text.  Integers
and numbers compare by their exact values, also beyond the integers that binary numbers can hold;
values of different kinds are ordered by kind, truth values first and texts last.

Main definitions:

* `ClusterReport.Scalar` — the scalars;
* `ClusterReport.Scalar.compare` — their order, whose equality is the equality of scalars;
* `ClusterReport.Scalar.ofJson?`, `ClusterReport.Scalar.toJson`, `ClusterReport.Scalar.toText`.

Main results:

* `ClusterReport.Scalar.same_iff` — equal scalars have the same place in the order.
-/

import ClusterReport.Binary64.Layout
import ClusterReport.Json.Basic

set_option relaxedAutoImplicit false
set_option autoImplicit false

namespace ClusterReport

/-- A displayable value. -/
inductive Scalar where
  | bool (value : Bool)
  | int (value : Int)
  | float (value : Binary64)
  | text (value : String)
deriving DecidableEq

namespace Scalar

instance : Inhabited Scalar := ⟨text ""⟩

/-! ### Readings -/

def number? : Scalar → Option Binary64
  | int n => some (.ofInt n)
  | float x => some x
  | _ => none

def int? : Scalar → Option Int
  | int n => some n
  | float x => some x.toInt64
  | _ => none

def text? : Scalar → Option String
  | text s => some s
  | _ => none

def isNumber : Scalar → Bool
  | int _ => true
  | float _ => true
  | _ => false

/-- The scalar that a document stands for; arrays, objects and null stand for none, and integers
beyond 64 signed bits for the nearest binary number. -/
def ofJson? : Json → Option Scalar
  | .bool b => some (bool b)
  | .int n => some (if Integer.fitsInt64 n then int n else float (.ofInt n))
  | .float x => some (float x)
  | .str s => some (text s)
  | _ => none

/-- The document of a scalar. -/
def toJson : Scalar → Json
  | bool b => .bool b
  | int n => .int n
  | float x => .float x
  | text s => .str s

/-- The text shown for a scalar. -/
def toText : Scalar → String
  | bool b => if b then "true" else "false"
  | int n => toString n
  | float x => x.toText
  | text s => s

/-! ### Order -/

/-- The place of a kind: truth values, then numbers, then texts. -/
def rank : Scalar → Nat
  | bool _ => 0
  | int _ => 1
  | float _ => 1
  | text _ => 2

/-- `2 ^ 63`, the first magnitude beyond the integers of 64 bits. -/
def int64Limit : Binary64 := .ofInt 9223372036854775808

/-- An integer of 64 bits compared with a binary number.  Not-a-number lies beyond the infinity of
its sign, and a number outside the range of the integers lies beyond all of them; of the others the
integer part decides, and the fraction where that is the integer itself. -/
def compareIntFloat (n : Int) (x : Binary64) : Ordering :=
  if x.isNan then if x.isNegative then .gt else .lt
  else if x.ge int64Limit then .lt
  else if x.lt (-int64Limit) then .gt
  else
    let whole := x.trunc
    (Ord.compare n whole.toInt64).then (((Binary64.zero false).compare? (x - whole)).getD .eq)

/-- Two binary numbers in numeric order, and in the total order of the format where that leaves
them without a place. -/
def compareFloat (x y : Binary64) : Ordering := (x.compare? y).getD (x.totalCompare y)

/-- The order of scalars. -/
def compare : Scalar → Scalar → Ordering
  | bool a, bool b => Ord.compare a b
  | int m, int n => Ord.compare m n
  | text s, text t => Ord.compare s t
  | float x, float y => compareFloat x y
  | int n, float x => compareIntFloat n x
  | float x, int n => (compareIntFloat n x).swap
  | a, b => Ord.compare a.rank b.rank

/-- Whether two scalars have the same place in the order. -/
def same (a b : Scalar) : Bool := a.compare b == .eq

theorem same_iff (a b : Scalar) : a.same b = true ↔ a.compare b = .eq := beq_iff_eq

end Scalar
end ClusterReport
