/-
**Reductions.**

A reduction makes one cell of the cells of a group.  The first error among them is the error of the
whole, absent cells are passed over, and a group without values is absent.  Integers are added
within 64 bits, and become binary numbers as soon as one joins in.

Main definitions:

* `ClusterReport.Sheet.Reduction` — the reductions;
* `ClusterReport.Sheet.Reduction.ofValues` — what a reduction makes of values;
* `ClusterReport.Sheet.Reduction.ofCells` — what it makes of cells.

Main results:

* `ClusterReport.Sheet.Reduction.ofCells_error` — an error decides;
* `ClusterReport.Sheet.Reduction.ofCells_absent` — absent cells alone are absent.
-/

import ClusterReport.Cell
import ClusterReport.Scalar

set_option relaxedAutoImplicit false
set_option autoImplicit false

namespace ClusterReport.Sheet

/-- A way to make one value of many. -/
inductive Reduction where
  | sum
  | least
  | greatest
  | mean
  | count
  | custom (reduce : List Scalar → Option Scalar)

namespace Reduction

def firstError? (cells : List (Cell Scalar)) : Option String :=
  cells.findSome? fun
    | .error cause => some cause
    | _ => none

/-- Two scalars added up; integers stay integers as long as they fit. -/
def add (total value : Scalar) : Option Scalar :=
  match total, value with
  | .int a, .int b => if Integer.fitsInt64 (a + b) then some (.int (a + b)) else none
  | total, value => do
    let x ← total.number?
    let y ← value.number?
    some (.float (x + y))

/-- The sum of scalars, if all of them are numbers and the integers stay within 64 bits. -/
def total (values : List Scalar) : Option Scalar := values.foldlM add (.int 0)

/-- The first of the least scalars. -/
def least? : List Scalar → Option Scalar
  | [] => none
  | value :: rest =>
    some (rest.foldl (fun best v => if (best.compare v).isLE then best else v) value)

/-- The last of the greatest scalars. -/
def greatest? : List Scalar → Option Scalar
  | [] => none
  | value :: rest =>
    some (rest.foldl (fun best v => if (best.compare v).isLE then v else best) value)

/-- What a reduction makes of values. -/
def ofValues (values : List Scalar) : Reduction → Option Scalar
  | sum => total values
  | least => least? values
  | greatest => greatest? values
  | mean => do
    let x ← (← total values).number?
    some (.float (x / .ofNat values.length))
  | count => some (.int values.length)
  | custom reduce => reduce values

/-- What a reduction makes of cells. -/
def ofCells (cells : List (Cell Scalar)) (r : Reduction) : Cell Scalar :=
  match firstError? cells with
  | some cause => .error cause
  | none =>
    match cells.filterMap Cell.value? with
    | [] => .absent
    | values =>
      match r.ofValues values with
      | some value => .value value
      | none => .error "cannot aggregate non-numeric values"

/-- An error decides. -/
theorem ofCells_error (r : Reduction) (cells : List (Cell Scalar)) (cause : String)
    (h : firstError? cells = some cause) : r.ofCells cells = .error cause := by
  simp [ofCells, h]

/-- Absent cells alone are absent. -/
theorem ofCells_absent (r : Reduction) (cells : List (Cell Scalar))
    (h : ∀ c ∈ cells, c = .absent) : r.ofCells cells = .absent := by
  have herror : firstError? cells = none := by
    simp only [firstError?, List.findSome?_eq_none_iff]
    intro c hc
    rw [h c hc]
  have hvalues : cells.filterMap Cell.value? = [] := by
    rw [List.filterMap_eq_nil_iff]
    intro c hc
    rw [h c hc]
    rfl
  simp [ofCells, herror, hvalues]

end Reduction
end ClusterReport.Sheet
