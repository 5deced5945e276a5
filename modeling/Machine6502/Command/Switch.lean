import Machine6502.Text.Quoted

/-!
# Switches of the command line

A switch has a letter, a long name, or both, and either takes a value or stands for
itself.  Messages name a switch by all of its names in quotes.
-/

namespace Machine6502

namespace Command

/-- The switches of the command. -/
inductive Switch where
  | bytes
  | address
  | pc
  | cycles
  | stackMode
  | x
  | y
  | dump
  | trace
  | verbose
  | version
  | help
  deriving DecidableEq, Repr

namespace Switch

/-- Every switch. -/
def all : List Switch :=
  [.bytes, .address, .pc, .cycles, .stackMode, .x, .y, .dump, .trace, .verbose, .version, .help]

/-- The letter of a switch, given after a single dash. -/
def letter? : Switch → Option Char
  | .bytes => some 'b'
  | .address => some 'a'
  | .cycles => some 'n'
  | .x => some 'x'
  | .y => some 'y'
  | .verbose => some 'v'
  | .pc | .stackMode | .dump | .trace | .version | .help => none

/-- The long name of a switch, dashes included. -/
def longName? : Switch → Option String
  | .bytes => some "--bytes"
  | .address => some "--address"
  | .pc => some "--pc"
  | .cycles => some "--cycles"
  | .stackMode => some "--stack-mode"
  | .dump => some "--dump"
  | .trace => some "--trace"
  | .verbose => some "--verbose"
  | .version => some "--version"
  | .help => some "--help"
  | .x | .y => none

/-- A value follows the switch. -/
def takesValue : Switch → Bool
  | .bytes | .address | .pc | .cycles | .stackMode | .x | .y | .dump => true
  | .trace | .verbose | .version | .help => false

/-- The name that a letter makes. -/
def letterName (letter : Char) : String := String.ofList ['-', letter]

/-- All names of a switch, quoted, as messages show them. -/
def label (switch : Switch) : String :=
  " / ".intercalate
    ((switch.letter?.map letterName).toList ++ switch.longName?.toList |>.map Text.quoted)

/-- The switch with a letter. -/
def ofLetter? (letter : Char) : Option Switch :=
  all.find? fun switch => switch.letter? == some letter

/-- The switch with a long name. -/
def ofLongName? (name : String) : Option Switch :=
  all.find? fun switch => switch.longName? == some name

end Switch

/-- What is wrong with a command line.  The first thing wrong ends its reading. -/
inductive Misuse where
  | unknownSwitch (name : String)
  /-- A switch that takes a value is the last argument. -/
  | missingValue (name : String)
  /-- A value is attached to a switch that takes none. -/
  | unwantedValue (name : String)
  /-- The value of a switch or of the program argument is refused. -/
  | badValue (label reason : String)
  | missingSwitch (label : String)
  | extraArguments (arguments : List String)
  deriving DecidableEq, Repr

namespace Misuse

/-- The wording of what is wrong. -/
def message : Misuse → String
  | .unknownSwitch name => "No such option: " ++ name
  | .missingValue name => "Option " ++ Text.quoted name ++ " requires an argument."
  | .unwantedValue name => "Option " ++ Text.quoted name ++ " does not take a value."
  | .badValue label reason => "Invalid value for " ++ label ++ ": " ++ reason
  | .missingSwitch label => "Missing option " ++ label ++ "."
  | .extraArguments [argument] => "Got unexpected extra argument (" ++ argument ++ ")"
  | .extraArguments arguments =>
      "Got unexpected extra arguments (" ++ " ".intercalate arguments ++ ")"

/-- Whether a reminder of the usage goes with the message. -/
def showsUsage : Misuse → Bool
  | .missingValue _ | .unwantedValue _ => false
  | .unknownSwitch _ | .badValue .. | .missingSwitch _ | .extraArguments _ => true

end Misuse

end Command

end Machine6502
