/-
**Running a command line.**

Running reads the settings, and the snapshot where the command needs one, and ends with a text to
print and perhaps a settings file to write, or with the reason why there is no report.  The files
are a parameter, so nothing here depends on where they come from.

Main definitions:

* `ClusterReport.Report.FileContent`, `ClusterReport.Report.Outcome` — files and outcomes;
* `ClusterReport.Report.loadSettings`, `ClusterReport.Report.loadSnapshot` — reading files;
* `ClusterReport.Report.run` — the outcome of an invocation.
-/

import ClusterReport.Report.Snapshot
import ClusterReport.Settings.Reading

set_option relaxedAutoImplicit false
set_option autoImplicit false

namespace ClusterReport.Report

/-! ### Files -/

/-- What is found under a path: nothing, something that is no readable text, or a text. -/
inductive FileContent where
  | missing
  | unreadable
  | text (text : String)

/-- The files under their paths. -/
abbrev Files := String → FileContent

/-- The settings in a file; without the file the defaults hold. -/
def loadSettings (files : Files) (path : String) : Except String Settings :=
  match files path with
  | .missing => .ok {}
  | .unreadable => .error ("failed to read " ++ path)
  | .text text =>
    match Settings.ofText? text with
    | some settings => .ok settings
    | none => .error ("invalid config " ++ path)

/-- The snapshot in a file. -/
def loadSnapshot (files : Files) : Option String → Except String Snapshot
  | none => .error "no snapshot given; pass --snapshot <FILE> or set ASADM_SNAPSHOT"
  | some path =>
    match files path with
    | .text text =>
      match Snapshot.ofText? text with
      | some snapshot => .ok snapshot
      | none => .error ("invalid snapshot " ++ path)
    | _ => .error ("failed to read snapshot " ++ path)

/-! ### Outcomes -/

/-- What a run ends with: a text to print, and a file to write with its text. -/
structure Outcome where
  output : String := ""
  written : Option (String × String) := none

/-- What is printed when nothing is asked for. -/
def guidance : String :=
  "\n".intercalate [
    "asadm - Offline Aerospike cluster reports",
    "",
    "Quick commands:",
    "  asadm -s snap.json summary            # Cluster and namespace summary",
    "  asadm -s snap.json features           # Feature usage per node",
    "  asadm -s snap.json stop-writes        # Stop-writes causes",
    "  asadm -s snap.json histogram objsz    # Object size percentiles",
    "  asadm -s snap.json namespaces         # Namespace usage",
    "  asadm config init                     # Write the default config",
    "",
    "For more commands:",
    "  asadm --help",
    ""]

def showSettings (f : Form) (path : String) : String :=
  match f.format with
  | .json => printJson f.settings.toJson
  | .plain => "# " ++ path ++ "\n" ++ f.settings.toText

/-- The default settings written to their file, unless it exists and may not be overwritten. -/
def writeSettings (files : Files) (path : String) (overwrite : Bool) : Except String Outcome :=
  match files path, overwrite with
  | .missing, _ | _, true =>
    .ok { output := "Wrote " ++ path ++ "\n"
          written := some (path, ({} : Settings).toText) }
  | _, false => .error (path ++ " already exists; pass --force to overwrite")

def runCommand (files : Files) (f : Form) (settingsPath : String) (snapshot : Option String) :
    Command → Except String Outcome
  | .summary allowUnstable => do
    return { output := summary f (← loadSnapshot files snapshot) allowUnstable }
  | .features => do
    return { output := ← features f (← loadSnapshot files snapshot) }
  | .stopWrites triggered => do
    return { output := ← stopWrites f (← loadSnapshot files snapshot) triggered }
  | .histogram name byteDistribution bucketCount logarithmic => do
    let s ← loadSnapshot files snapshot
    return { output := ← histogram f s name byteDistribution bucketCount logarithmic }
  | .namespaces only => do
    return { output := ← namespaces f (← loadSnapshot files snapshot) only }
  | .showSettings => .ok { output := showSettings f settingsPath }
  | .writeSettings overwrite => writeSettings files settingsPath overwrite

/-- The outcome of an invocation whose settings are under a path. -/
def run (files : Files) (settingsPath : String) (toTerminal : Bool) (i : Invocation) :
    Except String Outcome := do
  let f := Form.of i (← loadSettings files settingsPath) toTerminal
  match i.command with
  | none => return { output := guidance }
  | some command => runCommand files f settingsPath i.snapshot command

end ClusterReport.Report
