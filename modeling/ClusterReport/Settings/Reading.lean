/-
**Reading settings.**

A settings file has a section for each group of settings, and every section and every entry may be
missing.  Entries of other names are passed over; an entry of another kind makes the file invalid.
A section may be written as an array of its entries in order, and a date in its place says nothing.

Main definitions:

* `ClusterReport.Settings.ofTable?` — the settings that a table holds;
* `ClusterReport.Settings.ofText?` — the settings that a file holds.
-/

import ClusterReport.Integer
import ClusterReport.Settings.Basic
import ClusterReport.Toml.Reading

set_option relaxedAutoImplicit false
set_option autoImplicit false

namespace ClusterReport.Settings

open Toml (Table Value)

/-! ### Entries -/

def text? : Value → Option String
  | .text s => some s
  | _ => none

def truth? : Value → Option Bool
  | .truth b => some b
  | _ => none

def count? : Value → Option Nat
  | .integer n => if 0 ≤ n && n ≤ Integer.nat64Max then some n.toNat else none
  | _ => none

/-- A choice of colors: its name, or a table whose only entry has that name and is empty. -/
def color? : Value → Option ColorChoice
  | .text s => ColorChoice.ofName? s
  | .table _ [(s, .table _ [])] => ColorChoice.ofName? s
  | .table _ [(s, .array [])] => ColorChoice.ofName? s
  | _ => none

/-- An entry of a table, which may be missing. -/
def setting? {α : Type} (name : String) (default : α) (read : Value → Option α) (t : Table) :
    Option α :=
  match Entries.get? name t with
  | some value => read value
  | none => some default

/-! ### Sections -/

/-- The entries of a section with these names. -/
def sectionEntries? (names : List String) : Value → Option Table
  | .table _ entries => some entries
  | .array items => some (names.zip items)
  | .time => some []
  | _ => none

def display? (value : Value) : Option DisplaySettings := do
  let t ← sectionEntries? ["no_entry", "error_entry", "title_repeat", "color"] value
  let defaults : DisplaySettings := {}
  pure
    { absentText := ← setting? "no_entry" defaults.absentText text? t
      errorText := ← setting? "error_entry" defaults.errorText text? t
      repeatTitles := ← setting? "title_repeat" defaults.repeatTitles truth? t
      color := ← setting? "color" defaults.color color? t }

def single? {α : Type} (name : String) (default : α) (read : Value → Option α) (value : Value) :
    Option α :=
  (sectionEntries? [name] value).bind (setting? name default read)

/-- The settings that a table holds. -/
def ofTable? (t : Table) : Option Settings := do
  let defaults : Settings := {}
  pure
    { display := ← setting? "display" defaults.display display? t
      allowUnstable :=
        ← setting? "license" defaults.allowUnstable
          (single? "allow_unstable" defaults.allowUnstable truth?) t
      bucketCount :=
        ← setting? "histogram" defaults.bucketCount
          (single? "bucket_count" defaults.bucketCount count?) t }

/-- The settings that a file holds. -/
def ofText? (text : String) : Option Settings := (Toml.ofText? text).bind ofTable?

end ClusterReport.Settings
