/-
**Projectors.**

A projector reads one value out of a row.  It may find that the row has no entry for it, or that
the entry is at fault: the source failed, or it reported something of another kind.  A map that
holds nothing but an error text stands for a failed entry.

Main definitions:

* `ClusterReport.Sheet.Missing`, `ClusterReport.Sheet.Projector` — projectors and why they find
  no value;
* `ClusterReport.Sheet.Projector.number`, `text`, `truth` — one attribute of a source;
* `ClusterReport.Sheet.Projector.entry`, `boundKey`, `rowKey` — whole entries and keys;
* `ClusterReport.Sheet.Projector.percent`, `firstOf` — projectors made of projectors;
* `ClusterReport.Sheet.Projector.cell` — what a projector finds as a cell.

Main results:

* `ClusterReport.Sheet.Projector.firstOf_cons_missing`,
  `ClusterReport.Sheet.Projector.firstOf_cons_fault` — only a missing entry leaves the choice to
  the later projectors.
-/

import ClusterReport.Attribute.Reported
import ClusterReport.Scalar
import ClusterReport.Sheet.Source

set_option relaxedAutoImplicit false
set_option autoImplicit false

namespace ClusterReport.Sheet

/-- Why a projector finds no value. -/
inductive Missing where
  | noEntry
  | fault (cause : String)
deriving DecidableEq

def Missing.message : Missing → String
  | noEntry => "no entry"
  | fault cause => cause

/-- A reading of one value out of a row. -/
abbrev Projector := SourceRow → Except Missing Scalar

namespace Projector

/-- The fault of a value that is of another kind. -/
def otherKind {α : Type} (shown kind : String) : Except Missing α :=
  .error (.fault (shown ++ " is not a " ++ kind))

/-! ### Attributes -/

def attributes (row : SourceRow) (source : String) : Except Missing Stats :=
  match row.get source with
  | .absent => .error .noEntry
  | .error cause => .error (.fault cause)
  | .value reported =>
    match reported.toDict? with
    | none => otherKind source "map"
    | some map =>
      match map.entries with
      | [("error", .str cause)] => .error (.fault cause)
      | _ => .ok map

/-- The value under the first of some spellings that a source reported for a row. -/
def lookup (row : SourceRow) (source : String) (spellings : List String) :
    Except Missing Json := do
  let stats ← attributes row source
  match (spellings.findSome? stats.get?).filter fun value => !value.isNull with
  | some value => .ok value
  | none => .error .noEntry

/-- The number that a value stands for: an integer where it is one of 64 bits, otherwise a binary
number. -/
def numberOf? : Json → Option Scalar
  | .int n => some (if Integer.fitsInt64 n then .int n else .float (.ofInt n))
  | .float x => some (.float x)
  | .str s =>
    let digits := Text.trim s.toList
    match Integer.int64Of? digits with
    | some n => some (.int n)
    | none => (Binary64.ofText? digits).map .float
  | .bool b => some (.int (if b then 1 else 0))
  | _ => none

/-- The truth value that a value stands for: the words `true` and `false` in any case, and a
number when it is not zero. -/
def truthOf? : Json → Option Bool
  | .bool b => some b
  | .str s =>
    match String.ofList (s.toList.map Char.toLower) with
    | "true" => some true
    | "false" => some false
    | _ => none
  | j => j.numeric?.map fun x => !x.eq (.zero false)

/-- An attribute read by a function; a value that does not read is at fault. -/
def reading (kind : String) (read : Json → Option Scalar) (source : String)
    (spellings : List String) : Projector := fun row => do
  let value ← lookup row source spellings
  match read value with
  | some scalar => .ok scalar
  | none => otherKind value.sortedText kind

/-- An attribute as a number. -/
def number : String → List String → Projector := reading "number" numberOf?

/-- An attribute as a text; numbers and truth values are shown as they are written. -/
def text : String → List String → Projector :=
  reading "string" fun value => value.toText?.map .text

/-- An attribute as a truth value. -/
def truth : String → List String → Projector :=
  reading "boolean" fun value => (truthOf? value).map .bool

/-! ### Entries and keys -/

/-- The whole entry of a source, which must be a scalar. -/
def entry (source : String) : Projector := fun row =>
  match row.get source with
  | .absent => .error .noEntry
  | .error cause => .error (.fault cause)
  | .value reported =>
    match Scalar.ofJson? reported with
    | some scalar => .ok scalar
    | none => otherKind source "scalar"

/-- The key of the entry that an expanded source is bound to. -/
def boundKey (source : String) : Projector := fun row =>
  match row.boundKey? source, row.get source with
  | some key, _ => .ok (.text key)
  | none, .error cause => .error (.fault cause)
  | none, _ => .error .noEntry

/-- The key of the row. -/
def rowKey : Projector := fun row => .ok (.text row.key)

/-! ### Projectors of projectors -/

def asNumber (p : Projector) (row : SourceRow) : Except Missing Binary64 := do
  let scalar ← p row
  match scalar.number? with
  | some x => .ok x
  | none => otherKind scalar.toText "number"

/-- A part as a percentage of a total; a total of zero has no percentages. -/
def percent (part total : Projector) : Projector := fun row => do
  let part ← asNumber part row
  let total ← asNumber total row
  if total.eq (.zero false) then .error .noEntry
  else .ok (.float (part / total * .ofInt 100))

/-- The first projector that finds an entry, be it at fault. -/
def firstOf : List Projector → Projector
  | [], _ => .error .noEntry
  | p :: rest, row =>
    match p row with
    | .error .noEntry => firstOf rest row
    | found => found

theorem firstOf_cons_missing (p : Projector) (rest : List Projector) (row : SourceRow)
    (h : p row = .error .noEntry) : firstOf (p :: rest) row = firstOf rest row := by
  simp [firstOf, h]

theorem firstOf_cons_fault (p : Projector) (rest : List Projector) (row : SourceRow)
    (cause : String) (h : p row = .error (.fault cause)) :
    firstOf (p :: rest) row = .error (.fault cause) := by
  simp [firstOf, h]

/-- What a projector finds in a row, as a cell. -/
def cell (p : Projector) (row : SourceRow) : Cell Scalar :=
  match p row with
  | .ok scalar => .value scalar
  | .error .noEntry => .absent
  | .error (.fault cause) => .error cause

end Projector
end ClusterReport.Sheet
