import Machine6502.Command.Report
import Machine6502.Command.Settings
import Machine6502.Run

/-!
# The command

The command loads a program into a machine that was reset, runs it for a number of cycles
and shows the registers and the memory ranges asked for.  `report` is the whole command as
a function of its command line and of the files it can see; there is none when the program
argument is looked up and is no path.

The program is the contents of a file, followed by bytes given on the command line; either
may be missing, but not both.
-/

namespace Machine6502

namespace Command

namespace Settings

/-- The bytes to be loaded. -/
def data (settings : Settings) : Except Failure (List UInt8) := do
  let inline ← match settings.bytes with
    | none => pure []
    | some text =>
        if text.isEmpty then pure []
        else
          match readBytes text with
          | .ok bytes => pure bytes
          | .error bad => throw (.badArgument bad.message)
  match settings.program.getD [] ++ inline with
  | [] => throw (.badArgument "no program: give PROGRAM and/or --bytes")
  | data => return data

/-- The hook that traces every instruction, if the run is traced. -/
def hook (settings : Settings) : Option Hook :=
  if settings.trace then some {} else none

/-- Log entries that are only shown when details are wanted. -/
def details (settings : Settings) (diagnostics : List Diagnostic) : List Diagnostic :=
  if settings.verbose then diagnostics else []

/-- A machine after power-on. -/
def blankMachine (settings : Settings) : Machine :=
  { stackMode := settings.stackMode : Machine }.reset

/-- The registers at the start of the run. -/
def startRegisters (settings : Settings) : Registers :=
  let registers := settings.blankMachine.registers.setPc (settings.pc.getD settings.address)
  let registers := settings.x.elim registers fun x => registers.setX x
  settings.y.elim registers fun y => registers.setY y

/-- The machine at the start of the run. -/
def startMachine (settings : Settings) (data : List UInt8) : Except Fault Machine := do
  let machine := settings.blankMachine
  let memory ← machine.memory.load settings.address (data.map fun byte => (byte.toNat : Int))
  return { machine with memory, registers := settings.startRegisters }

/-- The log entry of a machine that was reset. -/
def resetEntry (settings : Settings) : Diagnostic :=
  let registers := settings.blankMachine.registers
  .log .debug ("Reset: PC=$" ++ hexText 4 registers.pc ++ " SP=$" ++ hexText 4 registers.sp)

/-- The log entry at the start of a run. -/
def startEntry (machine : Machine) (cycles : Int) : Diagnostic :=
  .log .debug
    ("Execute " ++ toString cycles ++ " cycles from PC=$" ++ hexText 4 machine.registers.pc)

/-- The log entry of a run that returned. -/
def endEntry (machine : Machine) (used : Int) : Diagnostic :=
  .log .debug
    ("Executed " ++ toString used ++ " cycles, PC=$" ++ hexText 4 machine.registers.pc)

/-- The log entry of a run that faulted: only an unhandled opcode is logged. -/
def faultEntries : Fault → List Diagnostic
  | .unhandledOpcode opcode address =>
      [.log .error ("Instruction not handled: $" ++ hexText 2 opcode ++ " at $" ++
        hexText 4 (address.getD 0))]
  | .addressOutOfRange _ | .noEffectiveAddress => []

/-- The lines of several dumps, up to the first that faults. -/
def dumpLines (memory : Memory) : List DumpRange → List String × Option Fault
  | [] => ([], none)
  | range :: rest =>
      match memory.dump range.start range.count with
      | .error fault => ([], some fault)
      | .ok bytes =>
          let (lines, fault) := dumpLines memory rest
          (HexDump.lines range.start bytes ++ lines, fault)

/-- Runs a machine and reports on it. -/
def reportRun (settings : Settings) (machine : Machine) (diagnostics : List Diagnostic) : Report :=
  let run := machine.execute settings.hook settings.cycles
  let diagnostics := diagnostics ++ settings.details [startEntry machine settings.cycles] ++
    run.calls.map .trace
  match run.outcome.result with
  | .error fault => .ofFailure [] (diagnostics ++ faultEntries fault) (.machine fault)
  | .ok used =>
      let diagnostics := diagnostics ++ settings.details [endEntry run.machine used]
      let (lines, fault) := dumpLines run.machine.memory settings.dumps
      let output := ["Cycles: " ++ toString used, run.machine.registers.line] ++ lines
      match fault with
      | some fault => .ofFailure output diagnostics (.machine fault)
      | none => { exitCode := .success, output, diagnostics }

/-- Carries out the settings. -/
def report (settings : Settings) : Report :=
  match settings.data with
  | .error failure => .ofFailure [] [] failure
  | .ok data =>
      let reset := settings.details [settings.resetEntry]
      match settings.startMachine data with
      | .error fault => .ofFailure [] reset (.machine fault)
      | .ok machine =>
          settings.reportRun machine
            (reset ++ settings.details [.loaded data.length settings.address])

end Settings

/-- The lines that explain the command. -/
def helpLines : List String :=
  [usageLine, "", "Load bytes into memory, set PC, run a number of cycles and show the registers.",
    "", "Options:"] ++
  Switch.all.map fun switch =>
    "  " ++ ", ".intercalate
      ((switch.letter?.map Switch.letterName).toList ++ switch.longName?.toList)

/-- The whole command. -/
def report (files : Files) (commandLine : List String) : Except Breakdown Report :=
  match Demand.ofCommandLine files commandLine with
  | .error (.breakdown cause) => .error cause
  | .error (.misuse cause) =>
      .ok { exitCode := .invalidArguments, diagnostics := [.misuse cause] }
  | .ok .showVersion =>
      .ok { exitCode := .success, output := [commandName ++ ", version " ++ version] }
  | .ok .showHelp => .ok { exitCode := .success, output := helpLines }
  | .ok (.run settings) => .ok settings.report

end Command

end Machine6502
