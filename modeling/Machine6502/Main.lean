import Machine6502.Command

/-!
# The command line program

Looks up the program file, if one is named, and leaves everything else to
`Machine6502.Command.report`.
-/

namespace Machine6502

namespace Command

/-- The error code with which the system refuses to read a directory. -/
def directoryCode : UInt32 := 21

/-- What stands at a path of the file system. -/
def lookUp (path : String) : IO Entry := do
  match ← (IO.FS.readBinFile path).toBaseIO with
  | .ok contents => return .file contents.toList
  | .error (.inappropriateType _ code _) =>
      return if code = directoryCode then .directory else .missing
  | .error _ => return .missing

end Command

end Machine6502

/-- Runs the command on the arguments it was given. -/
def main (commandLine : List String) : IO UInt32 := do
  let named :=
    match Machine6502.Command.Arguments.ofList commandLine with
    | .ok arguments => arguments.positional.head?
    | .error _ => none
  let entry ← match named with
    | some path => Machine6502.Command.lookUp path
    | none => pure .missing
  match Machine6502.Command.report (fun _ => entry) commandLine with
  | .ok report =>
    IO.eprint report.diagnosticText
    IO.print report.outputText
    return UInt32.ofNat report.exitCode.number
  | .error cause =>
    IO.eprintln cause.message
    return 1
