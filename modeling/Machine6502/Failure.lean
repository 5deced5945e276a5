import Machine6502.Fault

/-!
# Failures of a command

Everything that can end a command early, sorted by what the caller is told: an exit code
and one line.  A fault of the machine and the two kinds of simulation error are emulation
errors; a bad argument and a file that cannot be opened are the caller's to mend; all else
is an internal error.

The simulation errors form a chain of categories, from any error of the simulator down to
the two faults of an emulation.  `Failure.categories` lists the ones a failure belongs to.
-/

namespace Machine6502

/-- The exit codes of a command. -/
inductive ExitCode where
  | success
  | emulationError
  | invalidArguments
  | internalError
  deriving DecidableEq, Repr

/-- The number of an exit code. -/
def ExitCode.number : ExitCode → Nat
  | .success => 0
  | .emulationError => 1
  | .invalidArguments => 2
  | .internalError => 3

/-- Why a command ended early. -/
inductive Failure where
  /-- The machine faulted. -/
  | machine (fault : Fault)
  /-- Any other error of an emulation, perhaps at an address. -/
  | emulation (text : String) (address : Option Int)
  /-- Any other error of the simulator. -/
  | simulation (text : String)
  | badArgument (text : String)
  | fileNotFound (text : String)
  | fileForbidden (text : String)
  | unexpected (text : String)
  deriving DecidableEq, Repr

/-- The categories of simulation errors, each but the first part of an earlier one. -/
inductive Failure.Category where
  | simulation
  | emulation
  | unhandledOpcode
  | addressOutOfRange
  deriving DecidableEq, Repr

namespace Failure

/-- The categories a failure belongs to, the widest first. -/
def categories : Failure → List Category
  | .machine (.unhandledOpcode ..) => [.simulation, .emulation, .unhandledOpcode]
  | .machine (.addressOutOfRange _) => [.simulation, .emulation, .addressOutOfRange]
  | .machine .noEffectiveAddress => []
  | .emulation .. => [.simulation, .emulation]
  | .simulation _ => [.simulation]
  | .badArgument _ | .fileNotFound _ | .fileForbidden _ | .unexpected _ => []

/-- The full text of a failure. -/
def message : Failure → String
  | .machine fault => fault.message
  | .emulation text address => Fault.located address text
  | .simulation text | .badArgument text | .fileNotFound text | .fileForbidden text
  | .unexpected text => text

/-- The description of an emulation error, without the address it is about. -/
def description? : Failure → Option String
  | .machine .noEffectiveAddress => none
  | .machine fault => some fault.description
  | .emulation text _ => some text
  | .simulation _ | .badArgument _ | .fileNotFound _ | .fileForbidden _ | .unexpected _ => none

/-- The exit code a failure ends a command with. -/
def exitCode (failure : Failure) : ExitCode :=
  if .simulation ∈ failure.categories then .emulationError
  else
    match failure with
    | .badArgument _ | .fileNotFound _ | .fileForbidden _ => .invalidArguments
    | _ => .internalError

/-- The line that tells of a failure.  Emulation errors carry the activity they ended, when
it has a name. -/
def line (failure : Failure) (activity : Option String) : String :=
  match failure.exitCode, activity with
  | .internalError, _ => "Internal error: " ++ failure.message
  | .emulationError, some activity =>
      if activity.isEmpty then "Error: " ++ failure.message
      else activity ++ " error: " ++ failure.message
  | _, _ => "Error: " ++ failure.message

/-- Details of a failure are shown: it is an internal error, and details are wanted. -/
def showsDetails (failure : Failure) (verbose : Bool) : Bool :=
  verbose && failure.exitCode == .internalError

end Failure

end Machine6502
