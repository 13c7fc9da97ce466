/-
**The form of a report.**

A report is printed as a document, or laid out as text for a terminal of some size with or without
color, as the settings and the command line say.

Main definitions:

* `ClusterReport.Report.Form` — how a report is printed;
* `ClusterReport.Report.printJson`, `ClusterReport.Report.printSheet` — what is printed.
-/

import ClusterReport.CommandLine.Basic
import ClusterReport.Json.Text
import ClusterReport.Sheet.RowStyle

set_option relaxedAutoImplicit false
set_option autoImplicit false

namespace ClusterReport.Report

/-- How a report is printed: as a document or as text, with the settings, in color or not, and on
a terminal of some size. -/
structure Form where
  format : OutputFormat
  settings : Settings
  color : Bool
  columns : Nat := 80
  lines : Nat := 24

def Form.of (i : Invocation) (settings : Settings) (toTerminal : Bool) : Form where
  format := i.format
  settings := settings
  color := (i.color.getD settings.display.color).isOn toTerminal

/-- A document over several lines. -/
def printJson (j : Json) : String := j.pretty ++ "\n"

/-- The declaration of a sheet with what stands for missing and failed entries in a form. -/
def Form.adapt (f : Form) (d : Sheet.Declaration) : Sheet.Declaration :=
  { d with absentText := f.settings.display.absentText, errorText := f.settings.display.errorText }

/-- A sheet in a form, or why it cannot be laid out. -/
def printSheet (f : Form) (d : Sheet.Declaration) (title : String) (description : Option String)
    (sources : Sheet.Sources) : Except String String :=
  let sheet := { Sheet.build (f.adapt d) title sources with description }
  match f.format with
  | .json => .ok (printJson sheet.recordsJson)
  | .plain =>
    let options : Sheet.RowOptions :=
      { color := f.color, repeatTitles := f.settings.display.repeatTitles
        columns := f.columns, lines := f.lines }
    match sheet.rowText? options with
    | .ok text => .ok (text.getD "")
    | .error e => .error e.message

end ClusterReport.Report
