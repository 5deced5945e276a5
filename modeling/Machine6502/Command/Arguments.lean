import Machine6502.Command.Switch

/-!
# Splitting a command line

An argument that begins with a dash, and is more than the dash, names switches; `--` ends
the switches for good; any other argument is positional.  Two dashes begin one long name,
to which a value may be attached by `=`.  A single dash begins a group of letters, of which
the first that takes a value takes the rest of the group as its value.  A switch whose value
is not attached takes the next argument, whatever it looks like.

`Arguments.ofList` splits a whole command line.  It checks no value.
-/

namespace Machine6502

namespace Command

/-- What one argument says by itself. -/
inductive Token where
  /-- The end of the switches. -/
  | terminator
  | positional
  /-- Switches that stand for themselves. -/
  | flags (switches : List Switch)
  /-- The same, and then a switch that takes a value, by the name it was given, with the
  value attached to it if there is one. -/
  | valued (switches : List Switch) (switch : Switch) (name : String) (attached : Option String)

namespace Token

/-- Reads a group of letters. -/
def ofLetters : List Char → Except Misuse Token
  | [] => .ok (.flags [])
  | letter :: rest =>
      match Switch.ofLetter? letter with
      | none => .error (.unknownSwitch (Switch.letterName letter))
      | some switch =>
          if switch.takesValue then
            .ok (.valued [] switch (Switch.letterName letter)
              (if rest = [] then none else some (String.ofList rest)))
          else
            match ofLetters rest with
            | .ok (.flags switches) => .ok (.flags (switch :: switches))
            | .ok (.valued switches last name attached) =>
                .ok (.valued (switch :: switches) last name attached)
            | other => other

/-- Reads a long name with the value attached to it, if any. -/
def ofLongName (name : String) (attached : Option String) : Except Misuse Token :=
  match Switch.ofLongName? name with
  | none => .error (.unknownSwitch name)
  | some switch =>
      if switch.takesValue then .ok (.valued [] switch name attached)
      else if attached.isSome then .error (.unwantedValue name)
      else .ok (.flags [switch])

/-- Reads one argument. -/
def ofArgument (argument : String) : Except Misuse Token :=
  match argument.toList with
  | ['-', '-'] => .ok .terminator
  | '-' :: '-' :: _ =>
      match argument.toList.span (· != '=') with
      | (name, []) => ofLongName (String.ofList name) none
      | (name, _ :: value) => ofLongName (String.ofList name) (some (String.ofList value))
  | '-' :: letter :: letters => ofLetters (letter :: letters)
  | _ => .ok .positional

end Token

/-- A switch as it was given, with its value if it takes one. -/
structure Given where
  switch : Switch
  value : Option String := none
  deriving DecidableEq, Repr

/-- A command line in parts: its switches and its positional arguments, both in order. -/
structure Arguments where
  given : List Given := []
  positional : List String := []
  deriving DecidableEq, Repr

namespace Arguments

/-- Puts switches in front. -/
def withGiven (arguments : Arguments) (given : List Given) : Arguments :=
  { arguments with given := given ++ arguments.given }

/-- Puts a positional argument in front. -/
def withPositional (arguments : Arguments) (argument : String) : Arguments :=
  { arguments with positional := argument :: arguments.positional }

/-- Splits a command line. -/
def ofList : List String → Except Misuse Arguments
  | [] => .ok {}
  | argument :: rest =>
      match Token.ofArgument argument with
      | .error misuse => .error misuse
      | .ok .terminator => .ok { positional := rest }
      | .ok .positional => (ofList rest).map (·.withPositional argument)
      | .ok (.flags switches) =>
          (ofList rest).map (·.withGiven (switches.map fun switch => { switch }))
      | .ok (.valued switches switch _ (some value)) =>
          (ofList rest).map
            (·.withGiven (switches.map (fun switch => { switch }) ++ [⟨switch, some value⟩]))
      | .ok (.valued switches switch name none) =>
          match rest with
          | [] => .error (.missingValue name)
          | value :: rest =>
              (ofList rest).map
                (·.withGiven (switches.map (fun switch => { switch }) ++ [⟨switch, some value⟩]))

/-- The switches that were given, each once, in the order in which they first appear. -/
def switches (arguments : Arguments) : List Switch :=
  (arguments.given.map (·.switch)).eraseDups

/-- The values given to a switch, in order. -/
def valuesOf (arguments : Arguments) (switch : Switch) : List String :=
  arguments.given.filterMap fun given => if given.switch = switch then given.value else none

end Arguments

end Command

end Machine6502
