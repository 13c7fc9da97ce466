/-
**Values of settings documents.**

A document in TOML is a table.  A table remembers how it came about, because that decides how it
may still grow: one written between braces is closed, one with a header of its own cannot get a
second header, one that only exists because a header mentions it may get its own, and one that
exists through dotted keys may only be extended by dotted keys and by headers of tables in it.

Main definitions:

* `ClusterReport.Toml.Value` — values;
* `ClusterReport.Toml.assign?` — an entry under a dotted key;
* `ClusterReport.Toml.openTable?` — a table or an element of a list of tables under a header.
-/

import ClusterReport.Binary64.Basic
import ClusterReport.Dict

set_option relaxedAutoImplicit false
set_option autoImplicit false

namespace ClusterReport.Toml

/-- How a table came about. -/
inductive Origin where
  | braces
  | header
  | mentioned
  | dotted
deriving DecidableEq

/-- A value; a list of tables is the one that headers in double brackets make, one element each. -/
inductive Value where
  | text (text : String)
  | integer (value : Int)
  | float (value : Binary64)
  | truth (value : Bool)
  | time
  | array (items : List Value)
  | table (origin : Origin) (entries : List (String × Value))
  | tables (elements : List (List (String × Value)))

/-- The entries of a table, in key order. -/
abbrev Table := List (String × Value)

/-- A table with an entry that is not yet in it. -/
def add? (key : String) (value : Value) (t : Table) : Option Table :=
  match Entries.get? key t with
  | none => some (Entries.insert key value t)
  | some _ => none

/-- A list of tables with its last table changed. -/
def changeLast? (change : Table → Option Table) : List Table → Option (List Table)
  | [] => none
  | [t] => (change t).map fun t => [t]
  | t :: rest => (changeLast? change rest).map (t :: ·)

/-- A table with an entry under a dotted key.  The tables on the way are made if need be; the
innermost of them must have been made by dotted keys, and none may have been closed by braces or
have a header. -/
def assign? (value : Value) : (viaDots isDotted : Bool) → List String → Table → Option Table
  | _, _, [], _ => none
  | viaDots, isDotted, [key], t => if viaDots && !isDotted then none else add? key value t
  | _, _, key :: rest, t =>
    match Entries.get? key t with
    | none =>
      (assign? value true true rest []).map fun es => Entries.insert key (.table .dotted es) t
    | some (.table .dotted es) =>
      (assign? value true true rest es).map fun es => Entries.insert key (.table .dotted es) t
    | some (.table .mentioned es) =>
      (assign? value true false rest es).map fun es => Entries.insert key (.table .mentioned es) t
    | some (.tables elements) =>
      (changeLast? (assign? value true false rest) elements).map fun es =>
        Entries.insert key (.tables es) t
    | some _ => none

/-- The table that a header opens, filled: it must be new or at most mentioned before. -/
def openTable? (fill : Table → Option Table) (key : String) (t : Table) : Option Table :=
  match Entries.get? key t with
  | none => (fill []).map fun es => Entries.insert key (.table .header es) t
  | some (.table .mentioned es) =>
    (fill es).map fun es => Entries.insert key (.table .header es) t
  | some _ => none

/-- The element that a header in double brackets opens, filled. -/
def openElement? (fill : Table → Option Table) (key : String) (t : Table) : Option Table :=
  match Entries.get? key t with
  | none => (fill []).map fun es => Entries.insert key (.tables [es]) t
  | some (.tables elements) =>
    (fill []).map fun es => Entries.insert key (.tables (elements ++ [es])) t
  | some _ => none

/-- A change at the end of a header's path.  The tables on the way are made if need be, and a list
of tables stands for its last element. -/
def alongHeader? (change : String → Table → Option Table) : List String → Table → Option Table
  | [], _ => none
  | [key], t => change key t
  | key :: rest, t =>
    match Entries.get? key t with
    | none =>
      (alongHeader? change rest []).map fun es => Entries.insert key (.table .mentioned es) t
    | some (.table .braces _) => none
    | some (.table origin es) =>
      (alongHeader? change rest es).map fun es => Entries.insert key (.table origin es) t
    | some (.tables elements) =>
      (changeLast? (alongHeader? change rest) elements).map fun es =>
        Entries.insert key (.tables es) t
    | some _ => none

end ClusterReport.Toml
