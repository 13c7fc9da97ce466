/-
**Command lines.**

A command line asks for one report, or for the settings to be shown or written.  Options of every
command say where the snapshot and the settings are, in which form the report is printed, and
whether it is colored.

Main definitions:

* `ClusterReport.OutputFormat`, `ClusterReport.LogLevel` — choices of options;
* `ClusterReport.Command` — what is asked for;
* `ClusterReport.Invocation` — a command with the common options;
* `ClusterReport.Refusal` — why a command line is not carried out.

Main results:

* `ClusterReport.OutputFormat.ofName?_name`, `ClusterReport.LogLevel.ofName?_name` — choices are
  read back from their names.
-/

import ClusterReport.Settings.Basic

set_option relaxedAutoImplicit false
set_option autoImplicit false

namespace ClusterReport

/-! ### Choices -/

/-- The form in which a report is printed. -/
inductive OutputFormat where
  | plain
  | json
deriving DecidableEq

namespace OutputFormat

def name : OutputFormat → String
  | plain => "plain"
  | json => "json"

def ofName? (s : String) : Option OutputFormat := [plain, json].find? fun f => f.name == s

/-- A form is read back from its name. -/
@[simp] theorem ofName?_name (f : OutputFormat) : ofName? f.name = some f := by
  cases f <;> rfl

end OutputFormat

/-- How much is logged. -/
inductive LogLevel where
  | error
  | warn
  | info
  | debug
  | trace
deriving DecidableEq

namespace LogLevel

def name : LogLevel → String
  | error => "error"
  | warn => "warn"
  | info => "info"
  | debug => "debug"
  | trace => "trace"

def ofName? (s : String) : Option LogLevel :=
  [error, warn, info, debug, trace].find? fun l => l.name == s

/-- A level is read back from its name. -/
@[simp] theorem ofName?_name (l : LogLevel) : ofName? l.name = some l := by
  cases l <;> rfl

end LogLevel

/-! ### Invocations -/

/-- What is asked for. -/
inductive Command where
  | summary (allowUnstable : Bool)
  | features
  | stopWrites (triggered : Bool)
  | histogram (name : String) (byteDistribution : Bool) (bucketCount : Option Nat)
      (logarithmic : Bool)
  | namespaces (only : Option String)
  | showSettings
  | writeSettings (overwrite : Bool)
deriving DecidableEq

/-- A command with the options of every command. -/
structure Invocation where
  snapshot : Option String := none
  settings : Option String := none
  format : OutputFormat := .plain
  logLevel : LogLevel := .info
  color : Option ColorChoice := none
  command : Option Command := none
deriving DecidableEq

/-- Why a command line is not carried out: it is wrong, or it asks for help or the version. -/
inductive Refusal where
  | unknownArgument
  | invalidValue
  | unreadableValue
  | missingArgument
  | unknownCommand
  | missingCommand
  | helpForMissingCommand
  | repeatedOption
  | superfluousValue
  | help
  | version
deriving DecidableEq

end ClusterReport
