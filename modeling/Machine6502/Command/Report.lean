import Machine6502.Command.Switch
import Machine6502.Display
import Machine6502.Failure
import Machine6502.Text.ControlSequence

/-!
# Reports of a command

What a command leaves behind: an exit code, the lines of its output, and diagnostics in the
order in which they came up.  Diagnostics are kept as what they report on; `Diagnostic.lines`
is their wording.

A report is written as plain text.  Messages repeat what the caller gave, and control
sequences in it are not passed on.
-/

namespace Machine6502

namespace Command

/-- The name of the command. -/
def commandName : String := "run6502"

/-- The version of the command. -/
def version : String := "1.0.0"

/-- The first line of the usage. -/
def usageLine : String := "Usage: " ++ commandName ++ " [OPTIONS] [PROGRAM]"

/-- How serious a log entry is. -/
inductive Severity where
  | debug
  | error
  deriving DecidableEq, Repr

/-- The name of a severity. -/
def Severity.name : Severity → String
  | .debug => "DEBUG"
  | .error => "ERROR"

/-- Something a command reports beside its output. -/
inductive Diagnostic where
  | misuse (misuse : Misuse)
  /-- An entry of the log of the machine. -/
  | log (severity : Severity) (text : String)
  | loaded (count : Nat) (address : Nat)
  | trace (call : HookCall)
  | failure (failure : Failure)
  deriving DecidableEq, Repr

/-- The wording of a diagnostic. -/
def Diagnostic.lines : Diagnostic → List String
  | .misuse cause =>
      (if cause.showsUsage then
        [usageLine, "Try '" ++ commandName ++ " --help' for help.", ""] else []) ++
      ["Error: " ++ cause.message]
  | .log severity text => [severity.name ++ " sim6502.emulator.cpu: " ++ text]
  | .loaded count address =>
      ["Loaded " ++ toString count ++ " bytes at $" ++ hexText 4 address]
  | .trace call => [call.traceLine]
  | .failure cause => [cause.line (some "Emulation")]

/-- What a command leaves behind. -/
structure Report where
  exitCode : ExitCode
  output : List String := []
  diagnostics : List Diagnostic := []
  deriving DecidableEq

/-- Lines as one plain text, each with its line end. -/
def joinLines (lines : List String) : String :=
  String.join (lines.map fun line => Text.plain line ++ "\n")

namespace Report

/-- The text of the output. -/
def outputText (report : Report) : String := joinLines report.output

/-- The text of the diagnostics. -/
def diagnosticText (report : Report) : String :=
  joinLines (report.diagnostics.flatMap Diagnostic.lines)

/-- A command that ended early. -/
def ofFailure (output : List String) (diagnostics : List Diagnostic) (failure : Failure) : Report where
  exitCode := failure.exitCode
  output := output
  diagnostics := diagnostics ++ [.failure failure]

end Report

end Command

end Machine6502
