/-
**The program.**

Reads the command line, the environment and the files that they name, runs the command, and prints
or writes what it ends with.  A command line that cannot be read ends the program with status two,
a command that fails with status one.

Main definitions:

* `main` — the program.

Main results: none; everything that is decided is decided in `ClusterReport.Report.run`.
-/

import ClusterReport.CommandLine.Reading
import ClusterReport.Report.Run
import ClusterReport.Settings.Location

set_option relaxedAutoImplicit false
set_option autoImplicit false

namespace ClusterReport.Program

open Report (FileContent)

/-- What the environment says about files. -/
def surroundings : IO Settings.Surroundings := do
  return {
    file := ← IO.getEnv "ASADM_CONFIG"
    directory := ← IO.getEnv "XDG_CONFIG_HOME"
    home := ← IO.getEnv "HOME"
    snapshot := ← IO.getEnv "ASADM_SNAPSHOT" }

/-- What is found under a path. -/
def readContent (path : String) : IO FileContent := do
  try
    return .text (← IO.FS.readFile path)
  catch
    | .noFileOrDirectory .. => return .missing
    | _ => return .unreadable

/-- The directory of a file, if its path names one. -/
def directoryOf (path : String) : Option String :=
  match (path.toList.reverse.dropWhile (· ≠ '/')).dropWhile (· = '/') with
  | [] => none
  | directory => some (String.ofList directory.reverse)

/-- A text written to a file, whose directory is made if need be. -/
def writeContent (path text : String) : IO Unit := do
  match directoryOf path with
  | some directory => IO.FS.createDirAll directory
  | none => pure ()
  IO.FS.writeFile path text

def fail (status : UInt32) (message : String) : IO UInt32 := do
  IO.eprintln ("Error: " ++ message)
  return status

/-- What is said about a command line that is not carried out. -/
def refuse : Refusal → IO UInt32
  | .help => do
    IO.print Report.guidance
    return 0
  | .version => do
    IO.println "asadm 0.3.0"
    return 0
  | .unknownArgument => fail 2 "unexpected argument"
  | .invalidValue => fail 2 "invalid or missing value of an option"
  | .unreadableValue => fail 2 "unreadable value of an option"
  | .missingArgument => fail 2 "missing argument"
  | .unknownCommand => fail 2 "unrecognized subcommand"
  | .missingCommand | .helpForMissingCommand => fail 2 "missing subcommand"
  | .repeatedOption => fail 2 "option given more than once"
  | .superfluousValue => fail 2 "value for an option without one"

def carryOut (around : Settings.Surroundings) (i : Invocation) : IO UInt32 := do
  match Settings.location? i.settings around with
  | none => fail 1 "could not determine a config directory; pass --config"
  | some path =>
    let settings ← readContent path
    let snapshot ← match i.snapshot with
      | some path => readContent path
      | none => pure .missing
    let files : Report.Files := fun name =>
      if name = path then settings else if some name = i.snapshot then snapshot else .missing
    match Report.run files path (← (← IO.getStdout).isTty) i with
    | .error message => fail 1 message
    | .ok outcome =>
      match outcome.written with
      | some (path, text) => writeContent path text
      | none => pure ()
      IO.print outcome.output
      return 0

end ClusterReport.Program

/-- The program. -/
def main (arguments : List String) : IO UInt32 := do
  let around ← ClusterReport.Program.surroundings
  match ClusterReport.CommandLine.read arguments around.snapshot with
  | .error refusal => ClusterReport.Program.refuse refusal
  | .ok invocation => ClusterReport.Program.carryOut around invocation
