/-
**Cells.**

A cell is one data point of a report: a value, nothing, or an error.  A cell is absent when its
source simply had nothing to say, and an error when the source failed; the error carries the cause.
Sorting puts values first, absent cells after them and errors last.

Main definitions:

* `ClusterReport.Cell` — the cells of a type;
* `ClusterReport.Cell.map`, `ClusterReport.Cell.bind` — functions of values carried over to cells;
* `ClusterReport.Cell.compare`, `ClusterReport.Cell.same` — the order and the equality of cells.

Main results:

* `ClusterReport.Cell.map_map` — mapping twice is mapping once.
-/

import ClusterReport.Fetched.Basic

set_option relaxedAutoImplicit false
set_option autoImplicit false

universe u v w

namespace ClusterReport

/-- A data point: a value, nothing, or the cause of an error. -/
inductive Cell (α : Type u) where
  | value (value : α)
  | absent
  | error (cause : String)
deriving DecidableEq

namespace Cell

variable {α : Type u} {β : Type v} {γ : Type w}

instance : Inhabited (Cell α) := ⟨absent⟩

def value? : Cell α → Option α
  | value a => some a
  | _ => none

def isValue : Cell α → Bool
  | value _ => true
  | _ => false

def isAbsent : Cell α → Bool
  | absent => true
  | _ => false

def isError : Cell α → Bool
  | error _ => true
  | _ => false

/-- The cell with a function applied to its value. -/
def map (f : α → β) : Cell α → Cell β
  | value a => value (f a)
  | absent => absent
  | error cause => error cause

/-- The cell that a function makes of the value. -/
def bind (c : Cell α) (f : α → Cell β) : Cell β :=
  match c with
  | value a => f a
  | absent => absent
  | error cause => error cause

/-- Mapping twice is mapping once. -/
@[simp] theorem map_map (f : α → β) (g : β → γ) (c : Cell α) :
    (c.map f).map g = c.map fun a => g (f a) := by
  cases c <;> rfl

def ofOption : Option α → Cell α
  | some a => value a
  | none => absent

def ofFetched : Fetched α → Cell α
  | .data a => value a
  | .failed cause => error cause

/-- The order of cells: values among themselves, then absent cells, then errors by cause. -/
def compare (cmp : α → α → Ordering) : Cell α → Cell α → Ordering
  | value a, value b => cmp a b
  | value _, _ => .lt
  | absent, value _ => .gt
  | absent, absent => .eq
  | absent, error _ => .lt
  | error a, error b => Ord.compare a b
  | error _, _ => .gt

/-- Whether two cells are equal: their values are, both are absent, or both have failed for one
cause. -/
def same (eq : α → α → Bool) : Cell α → Cell α → Bool
  | value a, value b => eq a b
  | absent, absent => true
  | error a, error b => a == b
  | _, _ => false

/-- The document of a cell: an absent one is null, and an error an object with its cause. -/
def toJson (write : α → Json) : Cell α → Json
  | value a => write a
  | absent => .null
  | error cause => .object [("error", .str cause)]

end Cell
end ClusterReport
