import Machine6502.Argument
import Machine6502.Command.Arguments
import Machine6502.Command.Files
import Machine6502.Machine

/-!
# What a command line asks for

The values of the switches are read in the order in which the switches first appear on the
command line; of several values of one switch the last one counts, except that every dump
range does.  Then the program argument is looked up, then the one switch that must not be
missing is missed, and at last positional arguments beyond the first are refused.  The
first thing wrong is what is reported, or breaks the command down.

`--version` and `--help` are heeded before any value is read, the one that comes first.
-/

namespace Machine6502

namespace Command

/-- The settings of one run. -/
structure Settings where
  /-- The contents of the program file, if one was named. -/
  program : Option (List UInt8) := none
  /-- The text of further program bytes. -/
  bytes : Option String := none
  /-- Where the program is loaded. -/
  address : Nat := 0xFFFC
  /-- Where the run starts, if not at the load address. -/
  pc : Option Nat := none
  cycles : Int
  stackMode : StackMode := .flat
  x : Option Nat := none
  y : Option Nat := none
  dumps : List DumpRange := []
  trace : Bool := false
  verbose : Bool := false
  deriving DecidableEq

/-- Why nothing can be done about a command line. -/
inductive Obstacle where
  | misuse (cause : Misuse)
  | breakdown (cause : Breakdown)
  deriving DecidableEq, Repr

/-- What a command line asks for. -/
inductive Demand where
  | showVersion
  | showHelp
  | run (settings : Settings)
  deriving DecidableEq

namespace Settings

/-- The refusal of a value of a switch. -/
def refuse {α : Type} (switch : Switch) (reason : String) : Except Misuse α :=
  .error (.badValue switch.label reason)

/-- A value that a notation accepts, or the refusal with what is wrong with it. -/
def accept {α : Type} (switch : Switch) : Except BadArgument α → Except Misuse α
  | .ok value => .ok value
  | .error bad => refuse switch bad.message

/-- Reads a cycle count: a decimal numeral of any sign. -/
def readCycles (text : String) : Except Misuse Int :=
  match Numeral.read? .decimal text.toList with
  | some cycles => .ok cycles
  | none => refuse .cycles (Text.quoted text ++ " is not a valid integer.")

/-- Reads the name of a stack mode. -/
def readStackMode (text : String) : Except Misuse StackMode :=
  match StackMode.ofName? text with
  | some mode => .ok mode
  | none =>
      refuse .stackMode (Text.quoted text ++ " is not one of " ++
        ", ".intercalate (StackMode.all.map fun mode => Text.quoted mode.name) ++ ".")

/-- Takes the last value of a switch, and all values of a dump switch, into the settings. -/
def take (settings : Settings) (switch : Switch) (values : List String) : Except Misuse Settings :=
  let value := values.getLastD ""
  match switch with
  | .bytes => return { settings with bytes := some value }
  | .address => return { settings with address := ← accept switch (readNumber value 0xFFFF) }
  | .pc => return { settings with pc := some (← accept switch (readNumber value 0xFFFF)) }
  | .cycles => return { settings with cycles := ← readCycles value }
  | .stackMode => return { settings with stackMode := ← readStackMode value }
  | .x => return { settings with x := some (← accept switch (readNumber value 0xFF)) }
  | .y => return { settings with y := some (← accept switch (readNumber value 0xFF)) }
  | .dump => return { settings with dumps := ← values.mapM fun text => accept switch (DumpRange.read text) }
  | .trace => return { settings with trace := true }
  | .verbose => return { settings with verbose := true }
  | .version | .help => return settings

/-- Takes the values of several switches, in order. -/
def takeAll (arguments : Arguments) : List Switch → Settings → Except Misuse Settings
  | [], settings => .ok settings
  | switch :: rest, settings => do
      takeAll arguments rest (← settings.take switch (arguments.valuesOf switch))

/-- The contents of the file at a path. -/
def openProgram (files : Files) (path : String) : Except Obstacle (List UInt8) := do
  let refuse (state : String) : Except Obstacle (List UInt8) :=
    .error (.misuse (.badValue (Text.quoted "[PROGRAM]") ("File " ++ Text.quoted path ++ state)))
  match ← (files.lookUp path).mapError Obstacle.breakdown with
  | .file contents => return contents
  | .missing => refuse " does not exist."
  | .directory => refuse " is a directory."

/-- The settings that the parts of a command line make. -/
def ofArguments (files : Files) (arguments : Arguments) : Except Obstacle Settings := do
  let settings ← (takeAll arguments arguments.switches { cycles := 0 }).mapError Obstacle.misuse
  let program ← arguments.positional.head?.mapM (openProgram files)
  if .cycles ∉ arguments.switches then throw (.misuse (.missingSwitch Switch.cycles.label))
  match arguments.positional.tail with
  | [] => return { settings with program }
  | extra => throw (.misuse (.extraArguments extra))

end Settings

/-- What a command line asks for. -/
def Demand.ofCommandLine (files : Files) (commandLine : List String) :
    Except Obstacle Demand := do
  let arguments ← (Arguments.ofList commandLine).mapError Obstacle.misuse
  match arguments.switches.find? fun switch => switch = .version ∨ switch = .help with
  | some .version => return .showVersion
  | some _ => return .showHelp
  | none => return .run (← Settings.ofArguments files arguments)

end Command

end Machine6502
