/-
**Declarations of sheets.**

A sheet is declared by its fields.  A column is a field that shows one scalar per record; a tuple
is a titled bundle of fields.  What a row projects for the fields is a record, in which a column
has a cell and a tuple a record of its own.  A column says how its values are read, converted to
text, reduced and emphasised, and when it is hidden.

Main definitions:

* `ClusterReport.Sheet.Record` — what a row projects for some fields;
* `ClusterReport.Sheet.Shown` — what a converter may look at;
* `ClusterReport.Sheet.Column`, `ClusterReport.Sheet.Field` — the fields of a sheet;
* `ClusterReport.Sheet.Declaration` — the declaration of a sheet;
* `ClusterReport.Sheet.project` — the record that a row projects for some fields.
-/

import ClusterReport.Sheet.Projector
import ClusterReport.Sheet.Reduction

set_option relaxedAutoImplicit false
set_option autoImplicit false

namespace ClusterReport.Sheet

/-! ### Records -/

/-- What a row projects for one field: a cell for a column, and a list of keyed projections for a
tuple. -/
inductive Projected where
  | cell (cell : Cell Scalar)
  | tuple (fields : List (String × Projected))

/-- What a row projects for some fields, by key and in the order of the declaration. -/
abbrev Record := List (String × Projected)

namespace Record

/-- The cell under a key; tuples and unknown keys have none. -/
def cell (r : Record) (key : String) : Cell Scalar :=
  match Entries.get? key r with
  | some (.cell c) => c
  | _ => .absent

/-- The cell at the end of a path of keys through tuples. -/
def cellAt (r : Record) : List String → Cell Scalar
  | [] => .absent
  | [key] => r.cell key
  | key :: rest =>
    match Entries.get? key r with
    | some (.tuple inner) => cellAt inner rest
    | _ => .absent

end Record

/-! ### Columns -/

/-- What a converter may look at: a value, the cells of its group in display order, the record it
belongs to unless it is an aggregate, and a document common to the whole sheet. -/
structure Shown where
  value : Scalar
  cells : List (Cell Scalar) := []
  record : Option Record := none
  common : Json := .null

/-- Where a text stands in its column. -/
inductive Align where
  | left
  | right
  | center
deriving DecidableEq

/-- When a column is hidden: if all its cells are absent, in any case, or not at all. -/
inductive Hiding where
  | ifAbsent
  | always
  | never
deriving DecidableEq

/-- How a cell is highlighted. -/
inductive Emphasis where
  | alert
  | warning
  | strong
deriving DecidableEq

/-- A highlight and the values it applies to. -/
structure Highlight where
  emphasis : Emphasis
  applies : Shown → Bool

/-- A reduction, and how its result is shown if not in the way of the column. -/
structure Aggregator where
  reduction : Reduction
  convert : Option (Shown → String) := none

/-- A field that shows one scalar per record.  Of the highlights the first that applies counts. -/
structure Column where
  title : String
  projector : Projector
  key : String := title
  convert : Shown → String := fun s => s.value.toText
  aggregator : Option Aggregator := none
  hidden : Hiding := .ifAbsent
  highlights : List Highlight := []
  align : Align := .left

def Column.emphasis (c : Column) (s : Shown) : Option Emphasis :=
  (c.highlights.find? fun h => h.applies s).map Highlight.emphasis

/-! ### Fields -/

/-- A column, or a titled bundle of fields. -/
inductive Field where
  | column (column : Column)
  | tuple (key title : String) (fields : List Field)

namespace Field

def key : Field → String
  | column c => c.key
  | tuple key _ _ => key

mutual

def hasAggregate : Field → Bool
  | column c => c.aggregator.isSome
  | tuple _ _ fields => anyHasAggregate fields

def anyHasAggregate : List Field → Bool
  | [] => false
  | field :: rest => field.hasAggregate || anyHasAggregate rest

end

end Field

mutual

/-- What a row projects for a field. -/
def Field.project (row : SourceRow) : Field → Projected
  | .column c => .cell (c.projector.cell row)
  | .tuple _ _ fields => .tuple (Sheet.project row fields)

/-- The record that a row projects for some fields. -/
def project (row : SourceRow) : List Field → Record
  | [] => []
  | field :: rest => (field.key, field.project row) :: project row rest

end

/-! ### Sheets -/

/-- The declaration of a sheet: its fields, the sources expanded into one row per entry, the
records kept, the keys by which records are grouped and ordered, the keys of the fields repeated in
long listings, and what stands for absent cells, for errors and between columns. -/
structure Declaration where
  fields : List Field
  expanded : List String := []
  keep : Option (Record → Bool) := none
  groupKeys : List String := []
  orderKeys : List String := []
  titleKeys : List String := []
  absentText : String := "--"
  errorText : String := "~~"
  separator : String := "|"

def Declaration.hasAggregates (d : Declaration) : Bool := Field.anyHasAggregate d.fields

end ClusterReport.Sheet
