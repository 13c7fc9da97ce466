/-
**Prepared sheets.**

A prepared sheet has every field bound to the groups it displays: the cells of every column in
every group, its aggregates, and the texts in which a visible column shows them.  A column that
has no reduction of its own but groups the records shows its group value as an aggregate, as soon
as any column of the sheet is reduced.

Main definitions:

* `ClusterReport.Sheet.Leaf`, `ClusterReport.Sheet.Prepared` — columns and fields bound to groups;
* `ClusterReport.Sheet` — a prepared sheet;
* `ClusterReport.Sheet.build` — the sheet of some sources;
* `ClusterReport.Sheet.recordsJson` — the visible fields of every record as a document.

Main results:

* `ClusterReport.Sheet.Leaf.length_aggregates` — a column has an aggregate, or none, for every
  group.
-/

import ClusterReport.Sheet.Grouping

set_option relaxedAutoImplicit false
set_option autoImplicit false

namespace ClusterReport.Sheet

/-! ### Leaves -/

/-- The text of a cell and its emphasis. -/
structure ShownCell where
  text : String
  emphasis : Option Emphasis := none
deriving DecidableEq

/-- What a visible column shows of one group. -/
structure ShownGroup where
  cells : List ShownCell
  aggregate : String
deriving DecidableEq

/-- A column bound to the groups it displays.  Cells, aggregates and what is shown have one entry
per group; a hidden column shows nothing. -/
structure Leaf where
  column : Column
  hidden : Bool
  grouped : Bool
  ordered : Bool
  cells : List (List (Cell Scalar))
  aggregates : List (Option (Cell Scalar))
  shown : List ShownGroup

namespace Leaf

def hasAggregate (l : Leaf) : Bool := l.column.aggregator.isSome

def cellsOf (path : List String) (g : Group) : List (Cell Scalar) :=
  g.records.map fun r => Record.cellAt r path

/-- Whether a column with the given cells is hidden. -/
def isHidden (c : Column) (cells : List (List (Cell Scalar))) : Bool :=
  match c.hidden with
  | .ifAbsent => cells.all fun group => group.all Cell.isAbsent
  | .always => true
  | .never => false

def aggregate (c : Column) (showsGroup : Bool) (cells : List (Cell Scalar)) :
    Option (Cell Scalar) :=
  match c.aggregator with
  | some a => some (a.reduction.ofCells cells)
  | none => if showsGroup then some (cells.head?.getD .absent) else none

def showCell (c : Column) (d : Declaration) (common : Json) (cells : List (Cell Scalar))
    (cell : Cell Scalar) (record : Record) : ShownCell :=
  match cell with
  | .value value =>
    let s : Shown := { value, cells, record := some record, common }
    { text := c.convert s, emphasis := c.emphasis s }
  | .absent => { text := d.absentText }
  | .error _ => { text := d.errorText }

def showAggregate (c : Column) (d : Declaration) (common : Json) :
    Option (Cell Scalar) → String
  | none => ""
  | some .absent => d.absentText
  | some (.error _) => d.errorText
  | some (.value value) =>
    ((c.aggregator.bind Aggregator.convert).getD c.convert) { value, common }

def showGroup (c : Column) (d : Declaration) (common : Json) (g : Group)
    (cells : List (Cell Scalar)) (aggregate : Option (Cell Scalar)) : ShownGroup :=
  { cells := List.zipWith (showCell c d common cells) cells g.records
    aggregate := showAggregate c d common aggregate }

/-- A column bound to some groups, in which its cells stand at the end of a path. -/
def prepare (d : Declaration) (groups : List Group) (common : Json) (path : List String)
    (c : Column) : Leaf :=
  let cells := groups.map (cellsOf (path ++ [c.key]))
  let hidden := isHidden c cells
  let grouped := d.groupKeys.contains c.key
  let aggregates := cells.map fun cells =>
    if hidden then none else aggregate c (grouped && d.hasAggregates) cells
  { column := c
    hidden, grouped, cells, aggregates
    ordered := d.orderKeys.contains c.key
    shown :=
      if hidden then []
      else (groups.zip (cells.zip aggregates)).map fun (g, cells, aggregate) =>
        showGroup c d common g cells aggregate }

/-- A column has an aggregate, or none, for every group. -/
@[simp] theorem length_aggregates (d : Declaration) (groups : List Group) (common : Json)
    (path : List String) (c : Column) :
    (prepare d groups common path c).aggregates.length = groups.length := by
  simp [prepare]

end Leaf

/-! ### Fields -/

/-- A field bound to the groups it displays. -/
inductive Prepared where
  | leaf (leaf : Leaf)
  | tuple (key title : String) (hidden : Bool) (fields : List Prepared)

namespace Prepared

def key : Prepared → String
  | leaf l => l.column.key
  | tuple key _ _ _ => key

/-- Whether a field is hidden; a tuple is when all its fields are. -/
def isHidden : Prepared → Bool
  | leaf l => l.hidden
  | tuple _ _ hidden _ => hidden

mutual

def hasAggregate : Prepared → Bool
  | leaf l => l.hasAggregate
  | tuple _ _ _ fields => anyHasAggregate fields

/-- Whether a column of the visible ones among some fields is reduced. -/
def anyHasAggregate : List Prepared → Bool
  | [] => false
  | field :: rest => (!field.isHidden && field.hasAggregate) || anyHasAggregate rest

end

mutual

/-- A field bound to some groups, in which its cells stand behind a path. -/
def prepare (d : Declaration) (groups : List Group) (common : Json) (path : List String) :
    Field → Prepared
  | .column c => .leaf (Leaf.prepare d groups common path c)
  | .tuple key title fields =>
    let prepared := prepareAll d groups common (path ++ [key]) fields
    .tuple key title (prepared.all isHidden) prepared

/-- Some fields bound to some groups. -/
def prepareAll (d : Declaration) (groups : List Group) (common : Json) (path : List String) :
    List Field → List Prepared
  | [] => []
  | field :: rest => prepare d groups common path field :: prepareAll d groups common path rest

end

mutual

/-- What a field holds for one record, as a document. -/
def recordJson (group entry : Nat) : Prepared → Json
  | leaf l =>
    ((l.cells[group]?.bind fun cells => cells[entry]?).getD .absent).toJson Scalar.toJson
  | tuple _ _ _ fields => .ofDict (.ofList (visibleJson group entry fields))

/-- What the visible ones among some fields hold for one record, by key. -/
def visibleJson (group entry : Nat) : List Prepared → List (String × Json)
  | [] => []
  | field :: rest =>
    if field.isHidden then visibleJson group entry rest
    else (field.key, field.recordJson group entry) :: visibleJson group entry rest

end

end Prepared
end ClusterReport.Sheet

namespace ClusterReport

open Sheet

/-! ### Sheets -/

/-- A sheet with every field projected, grouped, ordered, aggregated and converted. -/
structure Sheet where
  declaration : Declaration
  title : String
  description : Option String := none
  fields : List Prepared
  groups : List Group

namespace Sheet

/-- The records of some sources that a declaration keeps. -/
def keptRecords (d : Declaration) (sources : Sources) : List Record :=
  let records := (sourceRows sources d.expanded).map fun row => project row d.fields
  match d.keep with
  | some keep => records.filter keep
  | none => records

/-- The sheet of some sources. -/
def build (d : Declaration) (title : String) (sources : Sources) (common : Json := .null) : Sheet :=
  let groups := (group d.groupKeys (keptRecords d sources)).map (Group.order d.orderKeys)
  { declaration := d
    title, groups
    fields := Prepared.prepareAll d groups common [] d.fields }

def visibleFields (s : Sheet) : List Prepared := s.fields.filter fun f => !f.isHidden

def recordCount (s : Sheet) : Nat := Integer.natSum (s.groups.map fun g => g.records.length)

/-- The visible fields of every record, one object per record. -/
def recordsJson (s : Sheet) : Json :=
  .array <| s.groups.zipIdx.flatMap fun (g, group) =>
    (List.range g.records.length).map fun entry =>
      .ofDict (.ofList (Prepared.visibleJson group entry s.fields))

end Sheet
end ClusterReport
