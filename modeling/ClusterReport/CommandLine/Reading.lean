/-
**Reading command lines.**

A command line is read level by level: first the options before the command, then the options and
the argument of the command, and so on for commands that have commands of their own.  The options
common to all commands may stand on every level, and the innermost one counts.  On one level no
option may be repeated.  An option's value is read when the next option, or the end of the level,
is reached; what is wrong on an inner level is reported before the last value of an outer one.

Main definitions:

* `ClusterReport.CommandLine.Switch`, `ClusterReport.CommandLine.Level` — what may stand on a level;
* `ClusterReport.CommandLine.Given` — what stood on a level;
* `ClusterReport.CommandLine.scan` — one level read;
* `ClusterReport.CommandLine.read` — the invocation that a command line stands for.
-/

import ClusterReport.CommandLine.Basic
import ClusterReport.Integer
import ClusterReport.Text.Pieces

set_option relaxedAutoImplicit false
set_option autoImplicit false

namespace ClusterReport.CommandLine

/-! ### Options -/

/-- The options of all commands. -/
inductive Switch where
  | snapshot
  | settings
  | format
  | logLevel
  | color
  | help
  | version
  | allowUnstable
  | triggered
  | byteDistribution
  | bucketCount
  | logarithmic
  | onlyNamespace
  | force
deriving DecidableEq

namespace Switch

def long : Switch → String
  | snapshot => "snapshot"
  | settings => "config"
  | format => "format"
  | logLevel => "log-level"
  | color => "color"
  | help => "help"
  | version => "version"
  | allowUnstable => "allow-unstable"
  | triggered => "triggered"
  | byteDistribution => "byte-distribution"
  | bucketCount => "bucket-count"
  | logarithmic => "logarithmic"
  | onlyNamespace => "namespace"
  | force => "force"

/-- The letter of an option behind one dash. -/
def short? : Switch → Option Char
  | snapshot => some 's'
  | help => some 'h'
  | version => some 'V'
  | onlyNamespace => some 'n'
  | _ => none

def hasValue : Switch → Bool
  | snapshot | settings | format | logLevel | color | bucketCount | onlyNamespace => true
  | _ => false

end Switch

/-- The options that may stand on every level. -/
def commonSwitches : List Switch := [.snapshot, .settings, .format, .logLevel, .color, .help]

/-! ### Levels -/

/-- What may stand on a level: options, commands, and an argument. -/
structure Level where
  switches : List Switch
  commands : List String := []
  hasArgument : Bool := false

/-- The level before any command. -/
def outerLevel : Level where
  switches := .version :: commonSwitches
  commands := ["summary", "features", "stop-writes", "histogram", "namespaces", "config"]

/-- The level of the commands for the settings. -/
def settingsLevel : Level where
  switches := commonSwitches
  commands := ["show", "init"]

/-- The level of a command without commands of its own. -/
def innerLevel (switches : List Switch) (hasArgument : Bool := false) : Level where
  switches := switches ++ commonSwitches
  hasArgument

/-! ### What was given -/

/-- The options and the argument that stood on a level. -/
structure Given where
  snapshot : Option String := none
  settings : Option String := none
  format : Option OutputFormat := none
  logLevel : Option LogLevel := none
  color : Option ColorChoice := none
  allowUnstable : Bool := false
  triggered : Bool := false
  byteDistribution : Bool := false
  bucketCount : Option Nat := none
  logarithmic : Bool := false
  onlyNamespace : Option String := none
  force : Bool := false
  argument : Option String := none
deriving DecidableEq

namespace Given

/-- An option that must not have stood on the level before. -/
def once {α : Type} (before : Option α) (value : Except Refusal α) : Except Refusal (Option α) :=
  if before.isSome then .error .repeatedOption else value.map some

/-- A flag that must not have stood on the level before. -/
def flagOnce (before : Bool) : Except Refusal Bool :=
  if before then .error .repeatedOption else .ok true

def pathOf (s : String) : Except Refusal String :=
  if s.isEmpty then .error .invalidValue else .ok s

def choiceOf {α : Type} (ofName? : String → Option α) (s : String) : Except Refusal α :=
  match ofName? s with
  | some a => .ok a
  | none => .error .invalidValue

/-- A number of things, which may have a plus sign. -/
def countOf (s : String) : Except Refusal Nat :=
  match Integer.nat64Of? s.toList with
  | some n => .ok n
  | none => .error .unreadableValue

/-- An option with its value, or a flag with an empty one. -/
def add (g : Given) (value : String) : Switch → Except Refusal Given
  | .snapshot => do return { g with snapshot := ← once g.snapshot (pathOf value) }
  | .settings => do return { g with settings := ← once g.settings (pathOf value) }
  | .format => do return { g with format := ← once g.format (choiceOf OutputFormat.ofName? value) }
  | .logLevel => do
    return { g with logLevel := ← once g.logLevel (choiceOf LogLevel.ofName? value) }
  | .color => do return { g with color := ← once g.color (choiceOf ColorChoice.ofName? value) }
  | .help => .error .help
  | .version => .error .version
  | .allowUnstable => do return { g with allowUnstable := ← flagOnce g.allowUnstable }
  | .triggered => do return { g with triggered := ← flagOnce g.triggered }
  | .byteDistribution => do return { g with byteDistribution := ← flagOnce g.byteDistribution }
  | .bucketCount => do return { g with bucketCount := ← once g.bucketCount (countOf value) }
  | .logarithmic => do return { g with logarithmic := ← flagOnce g.logarithmic }
  | .onlyNamespace => do
    return { g with onlyNamespace := ← once g.onlyNamespace (.ok value) }
  | .force => do return { g with force := ← flagOnce g.force }

end Given

/-! ### One level -/

/-- A level that is being read: what was given, the option whose value is not yet read, with the
value if it has come, and whether two dashes have ended the options. -/
structure State where
  given : Given := {}
  pending : Option (Switch × Option String) := none
  ended : Bool := false

namespace State

/-- The option whose value was not yet read, read. -/
def settle (s : State) : Except Refusal State :=
  match s.pending with
  | none => .ok s
  | some (_, none) => .error .invalidValue
  | some (switch, some value) => do
    return { s with given := ← s.given.add value switch, pending := none }

/-- Whether the next word is the value of an option. -/
def awaitsValue (s : State) : Bool :=
  match s.pending with
  | some (_, none) => true
  | _ => false

/-- A flag, or an option with the value attached to it. -/
def add (s : State) (switch : Switch) (value : String) : Except Refusal State := do
  let s ← s.settle
  return { s with given := ← s.given.add value switch }

/-- An option whose value is still to come. -/
def await (s : State) (switch : Switch) : Except Refusal State := do
  return { ← s.settle with pending := some (switch, none) }

/-- An option written out, with the value attached to it if there is one. -/
def addLong (level : Level) (s : State) (name : String) (value : Option String) :
    Except Refusal State :=
  match level.switches.find? fun switch => switch.long == name, value with
  | none, _ => .error .unknownArgument
  | some switch, some value =>
    if switch.hasValue then s.add switch value else .error .superfluousValue
  | some switch, none => if switch.hasValue then s.await switch else s.add switch ""

/-- Options by letter; what follows the letter of an option with a value is the value. -/
def addShort (level : Level) (s : State) : List Char → Except Refusal State
  | [] => .ok s
  | c :: rest =>
    match level.switches.find? fun switch => switch.short? == some c with
    | none => .error .unknownArgument
    | some switch =>
      if switch.hasValue then
        match rest with
        | [] => s.await switch
        | '=' :: value => s.add switch (String.ofList value)
        | value => s.add switch (String.ofList value)
      else do addShort level (← s.add switch "") rest

def addArgument (level : Level) (s : State) (word : String) : Except Refusal State :=
  if level.hasArgument && s.given.argument.isNone then do
    let s ← s.settle
    return { s with given := { s.given with argument := some word } }
  else if level.commands.isEmpty then .error .unknownArgument
  else if s.ended && (level.commands.contains word || word == "help") then
    .error .unknownArgument
  else .error .unknownCommand

/-- A word that is no command, before two dashes have ended the options. -/
def addWord (level : Level) (s : State) (word : String) : Except Refusal State :=
  match word.toList with
  | ['-', '-'] => .ok { s with ended := true }
  | '-' :: '-' :: rest =>
    match Text.cut (· = '=') rest with
    | some (name, value) => s.addLong level (String.ofList name) (some (String.ofList value))
    | none => s.addLong level (String.ofList rest) none
  | '-' :: c :: rest => s.addShort level (c :: rest)
  | _ =>
    match s.pending with
    | some (switch, none) => .ok { s with pending := some (switch, some word) }
    | _ => s.addArgument level word

end State

def levelOf (command : String) : Level :=
  match command with
  | "summary" => innerLevel [.allowUnstable]
  | "stop-writes" => innerLevel [.triggered]
  | "histogram" => innerLevel [.byteDistribution, .bucketCount, .logarithmic] true
  | "namespaces" => innerLevel [.onlyNamespace]
  | "init" => innerLevel [.force]
  | "config" => settingsLevel
  | _ => innerLevel []

/-- What is said about a command with these words behind `help`. -/
def helpOn (level : Level) : List String → Refusal
  | [] => .help
  | word :: rest =>
    if level.commands.contains word then helpOn (levelOf word) rest
    else if word == "help" && !level.commands.isEmpty then helpOn (innerLevel []) rest
    else .unknownCommand

/-- The words of a level read up to a command, which is returned with the words behind it. -/
def scan (level : Level) (s : State) : List String →
    Except Refusal (State × Option (String × List String))
  | [] => .ok (s, none)
  | word :: rest =>
    if s.ended then do scan level (← s.addArgument level word) rest
    else if !s.awaitsValue && level.commands.contains word then .ok (s, some (word, rest))
    else if !s.awaitsValue && word == "help" && !level.commands.isEmpty then
      .error (helpOn level rest)
    else do scan level (← s.addWord level word) rest

/-- What was given on a level at whose end we are; a snapshot named by the environment takes the
place of one on the level, and must not be empty either. -/
def State.finish (s : State) (fallback : Option String) : Except Refusal Given := do
  let g := (← s.settle).given
  if g.snapshot.isNone && fallback = some "" then .error .invalidValue else return g

/-- A level without commands read to its end. -/
def scanAll (level : Level) (fallback : Option String) (words : List String) :
    Except Refusal Given := do
  let (s, _) ← scan level {} words
  s.finish fallback

/-! ### All levels -/

/-- The options of an outer level with those of an inner one, which count where both stand. -/
def Given.under (outer inner : Given) : Given :=
  { inner with
    snapshot := inner.snapshot.or outer.snapshot
    settings := inner.settings.or outer.settings
    format := inner.format.or outer.format
    logLevel := inner.logLevel.or outer.logLevel
    color := inner.color.or outer.color }

def readSettingsCommand (fallback : Option String) (words : List String) :
    Except Refusal (Given × Command) := do
  let (s, command) ← scan settingsLevel {} words
  match command with
  | none =>
    let g ← s.finish fallback
    .error (if g = {} && fallback.isNone then .helpForMissingCommand else .missingCommand)
  | some (name, rest) =>
    let inner ← scanAll (levelOf name) fallback rest
    let outer ← s.finish fallback
    return (outer.under inner, if name == "show" then .showSettings else .writeSettings inner.force)

def readCommand (name : String) (fallback : Option String) (words : List String) :
    Except Refusal (Given × Command) :=
  if name == "config" then readSettingsCommand fallback words
  else do
    let g ← scanAll (levelOf name) fallback words
    match name with
    | "summary" => return (g, .summary g.allowUnstable)
    | "features" => return (g, .features)
    | "stop-writes" => return (g, .stopWrites g.triggered)
    | "namespaces" => return (g, .namespaces g.onlyNamespace)
    | _ =>
      match g.argument with
      | some argument =>
        return (g, .histogram argument g.byteDistribution g.bucketCount g.logarithmic)
      | none => .error .missingArgument

/-- The invocation that a command line stands for; the fallback is the snapshot that the
environment names. -/
def read (words : List String) (fallback : Option String := none) :
    Except Refusal Invocation := do
  let (s, command) ← scan outerLevel {} words
  -- what the outer level lacks at its end is a fault only after those behind the command
  let inner ← match command with
    | some (name, rest) => (readCommand name fallback rest).map some
    | none => pure none
  let outer ← s.finish fallback
  let g := match inner with
    | some (g, _) => outer.under g
    | none => outer
  return {
    snapshot := g.snapshot.or fallback
    settings := g.settings
    format := g.format.getD .plain
    logLevel := g.logLevel.getD .info
    color := g.color
    command := inner.map Prod.snd }

end ClusterReport.CommandLine
