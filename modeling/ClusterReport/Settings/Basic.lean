/-
**Settings.**

The settings say what stands for missing and failed entries, whether titles are repeated, whether
output is colored, whether license samples of unstable clusters count, and into how many ranges
bytes are distributed.

Main definitions:

* `ClusterReport.ColorChoice`, `ClusterReport.DisplaySettings`, `ClusterReport.Settings` — the
  settings with their defaults;
* `ClusterReport.Settings.toJson`, `ClusterReport.Settings.toText` — how they are written.

Main results:

* `ClusterReport.ColorChoice.ofName?_name` — a choice is read back from its name.
-/

import ClusterReport.Json.Basic
import ClusterReport.Toml.Text

set_option relaxedAutoImplicit false
set_option autoImplicit false

namespace ClusterReport

/-! ### Color -/

/-- When output is colored. -/
inductive ColorChoice where
  | auto
  | always
  | never
deriving DecidableEq

namespace ColorChoice

def name : ColorChoice → String
  | auto => "auto"
  | always => "always"
  | never => "never"

def ofName? (s : String) : Option ColorChoice := [auto, always, never].find? fun c => c.name == s

/-- A choice is read back from its name. -/
@[simp] theorem ofName?_name (c : ColorChoice) : ofName? c.name = some c := by
  cases c <;> rfl

/-- Whether output is colored, given whether it goes to a terminal. -/
def isOn (toTerminal : Bool) : ColorChoice → Bool
  | auto => toTerminal
  | always => true
  | never => false

end ColorChoice

/-! ### Settings -/

/-- How listings are shown. -/
structure DisplaySettings where
  absentText : String := "--"
  errorText : String := "~~"
  repeatTitles : Bool := true
  color : ColorChoice := .auto
deriving DecidableEq

/-- All settings. -/
structure Settings where
  display : DisplaySettings := {}
  allowUnstable : Bool := false
  bucketCount : Nat := 5
deriving DecidableEq

namespace Settings

/-- The document of the settings. -/
def toJson (s : Settings) : Json :=
  .object [
    ("display", .object [
      ("no_entry", .str s.display.absentText), ("error_entry", .str s.display.errorText),
      ("title_repeat", .bool s.display.repeatTitles), ("color", .str s.display.color.name)]),
    ("license", .object [("allow_unstable", .bool s.allowUnstable)]),
    ("histogram", .object [("bucket_count", .int s.bucketCount)])]

def truthText (b : Bool) : String := if b then "true" else "false"

def sections (s : Settings) : List (String × List (String × String)) := [
  ("display", [
    ("no_entry", Toml.quoteText s.display.absentText),
    ("error_entry", Toml.quoteText s.display.errorText),
    ("title_repeat", truthText s.display.repeatTitles),
    ("color", Toml.quoteText s.display.color.name)]),
  ("license", [("allow_unstable", truthText s.allowUnstable)]),
  ("histogram", [("bucket_count", toString s.bucketCount)])]

/-- A section with one entry a line. -/
def sectionText (name : String) (entries : List (String × String)) : String :=
  "[" ++ name ++ "]\n" ++ String.join (entries.map fun e => e.1 ++ " = " ++ e.2 ++ "\n")

/-- The settings as they stand in a settings file, with a blank line between the sections. -/
def toText (s : Settings) : String :=
  "\n".intercalate (s.sections.map fun e => sectionText e.1 e.2)

end Settings
end ClusterReport
