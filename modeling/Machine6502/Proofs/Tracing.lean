import Machine6502.Proofs.CommandFlags
import Machine6502.Proofs.Transcript

/-!
# Traced commands

A command that is asked for a trace runs its program with a hook, and tells of every consultation
of it in one line.  The line names the instruction by its row of the table, which is looked up again
for that purpose.  This module proves that the trace is the run: the hook is asked once for each
instruction that the run attempts, it has no say in the run, and the one line without a name, if
there is one, is that of the opcode on which the run faults.

* `Settings.report_mark` — the report of settings does not depend on what is told beside it.
* `Settings.diagnostics_of_report` — all that is told of a run whose details are not wanted.
* `Unnamed` — a line ends as that of an opcode without a row does.
* `HookCall.unnamed_traceLine` — exactly these lines of a trace do.
* `Machine.AfterCalls.attempts_eq` — the attempts of a run that follows a reset.
* `Command.report_traced` — commands with and without these flags.
-/

namespace Machine6502

open Text (Unescaped)

namespace Command

/-! ## Reports of runs -/

/-- The diagnostics that close a run: those of its fault. -/
def closing : Outcome → List Diagnostic
  | .faulted fault => Settings.faultEntries fault ++ [.failure (.machine fault)]
  | .exhausted _ | .stopped _ => []

namespace Settings

variable {settings other : Settings} {data : List UInt8}

/-- A traced run asks its hook about each attempt. -/
theorem calls_of_hook (settings : Settings) (machine : Machine) (cycles : Int) :
    (machine.execute settings.hook cycles).calls =
      if settings.trace then machine.attempts cycles else [] := by
  rw [hook]
  cases settings.trace with
  | true =>
    have run : machine.execute (some {}) cycles = _ :=
      (machine.execute_below_limit none 0 cycles (by rintro most ⟨⟩)).1
    rw [if_pos rfl, if_pos rfl, run]
  | false => exact (machine.bare_run_hook cycles).2

/-- The exit code and the output of a run depend on the machine, the cycles and the ranges only. -/
theorem reportRun_congr (machine : Machine) (diagnostics diagnostics' : List Diagnostic)
    (cycles : other.cycles = settings.cycles) (dumps : other.dumps = settings.dumps) :
    (other.reportRun machine diagnostics').exitCode =
        (settings.reportRun machine diagnostics).exitCode ∧
      (other.reportRun machine diagnostics').output =
        (settings.reportRun machine diagnostics).output := by
  obtain ⟨outcome, final⟩ := settings.execute_hook machine settings.cycles
  obtain ⟨outcome', final'⟩ := other.execute_hook machine settings.cycles
  rw [reportRun, reportRun, cycles, dumps]
  simp only [outcome, outcome', final, final']
  cases (machine.execute none settings.cycles).outcome.result with
  | error fault => exact ⟨rfl, rfl⟩
  | ok used =>
    dsimp only
    cases dumpLines (machine.execute none settings.cycles).machine.memory settings.dumps with
    | mk lines fault => cases fault <;> exact ⟨rfl, rfl⟩

/-- Neither the exit code nor the output depends on what a run tells beside them. -/
theorem report_mark (settings : Settings) {flag : Switch} (tells : flag.Tells) :
    (settings.mark flag).report.exitCode = settings.report.exitCode ∧
      (settings.mark flag).report.output = settings.report.output := by
  have data : (settings.mark flag).data = settings.data := by
    rcases tells with rfl | rfl <;> rfl
  have start (data : List UInt8) :
      (settings.mark flag).startMachine data = settings.startMachine data := by
    rcases tells with rfl | rfl <;> rfl
  rw [report, report, data]
  cases settings.data with
  | error failure => exact ⟨rfl, rfl⟩
  | ok data =>
    simp only [start]
    cases settings.startMachine data with
    | error fault => exact ⟨rfl, rfl⟩
    | ok machine =>
      rcases tells with rfl | rfl <;> exact reportRun_congr machine _ _ rfl rfl

/-- What is told of a run whose details are not wanted: its attempts, if it is traced, and then its
fault, if there is one. -/
theorem diagnostics_of_report (sound : settings.Sound) (supplies : settings.Supplies data)
    (fits : settings.address + data.length ≤ 65536) (quiet : settings.verbose = false) :
    let machine := settings.start data
    settings.report.diagnostics =
      (if settings.trace then machine.attempts settings.cycles else []).map .trace ++
        closing (machine.execute none settings.cycles).outcome := by
  intro machine
  have details (entries : List Diagnostic) : settings.details entries = [] := by
    rw [Settings.details, quiet, if_neg Bool.false_ne_true]
  have outcome := (settings.execute_hook machine settings.cycles).1
  rw [← calls_of_hook settings, report]
  simp only [data_eq_ok.mpr supplies, startMachine_eq_ok sound fits, reportRun, details,
    List.nil_append, List.append_nil]
  rcases machine.bare_run_end settings.cycles with ⟨used, ends, -⟩ | ⟨fault, -, ends, -⟩
  · rw [ends] at outcome ⊢
    simp only [machine, outcome, Outcome.result, dumpLines_eq _ sound.dumps, closing,
      List.append_nil]
  · rw [ends] at outcome ⊢
    simp only [machine, outcome, Outcome.result, closing, Report.ofFailure, List.append_assoc]

end Settings

end Command

namespace Digits

/-- The last digit of a number. -/
theorem getLast?_ofNat (radix : Radix) (value : Nat) :
    (ofNat radix value).getLast? = some (digit (value % radix.base)) := by
  by_cases small : value < radix.base
  · rw [ofNat_of_lt small, Nat.mod_eq_of_lt small, List.getLast?_singleton]
  · rw [ofNat_of_le (Nat.not_lt.mp small), List.getLast?_concat]

theorem getLast?_padded (radix : Radix) (width : Nat) (value : Int) :
    (padded radix width value).getLast? = some (digit (value.natAbs % radix.base)) := by
  have digits (width : Nat) : ((ofNat radix value.natAbs).leftpad width '0').getLast? =
      some (digit (value.natAbs % radix.base)) := by
    rw [List.leftpad, List.getLast?_append, getLast?_ofNat, Option.some_or]
  rw [padded]
  split
  · rw [List.getLast?_cons, digits, Option.getD_some]
  · exact digits width

end Digits

/-- The line ends in question marks, as that of an opcode without a row does. -/
def Unnamed (line : String) : Prop := ∃ start, line = start ++ "???"

/-- The last character is no question mark. -/
def Certain (text : String) : Prop := ∃ last, text.toList.getLast? = some last ∧ last ≠ '?'

theorem Certain.append {text : String} (certain : Certain text) (start : String) :
    Certain (start ++ text) := by
  obtain ⟨last, ends, other⟩ := certain
  refine ⟨last, ?_, other⟩
  rw [String.toList_append, List.getLast?_append, ends, Option.some_or]

theorem Certain.not_unnamed {line : String} (certain : Certain line) : ¬ Unnamed line := by
  rintro ⟨start, rfl⟩
  obtain ⟨last, ends, other⟩ := certain
  rw [String.toList_append, List.getLast?_append] at ends
  exact other (Option.some.inj ends).symm

theorem certain_hexText (width : Nat) (value : Int) : Certain (hexText width value) := by
  refine ⟨Digits.digit (value.natAbs % 16), ?_, ?_⟩
  · rw [hexText, String.toList_ofList]
    exact Digits.getLast?_padded .hexadecimal width value
  · have small : value.natAbs % 16 < 16 := Nat.mod_lt _ (by decide)
    generalize value.natAbs % 16 = digit at small
    revert digit
    decide

theorem AddressingMode.certain_text (mode : AddressingMode) : Certain mode.text := by
  cases mode <;> exact ⟨_, rfl, by decide⟩

/-! ## Lines of a trace -/

namespace HookCall

variable {call : HookCall}

/-- The line of an instruction, with the mnemonic and the mode of its row. -/
theorem traceLine_eq (call : HookCall) :
    call.traceLine =
      "$" ++ hexText 4 call.pc ++ ": " ++ hexText 2 call.opcode.toNat ++ "  " ++
        (Instruction.ofOpcode? call.opcode.toNat).elim "???" fun row =>
          row.operation.mnemonic ++ " " ++ row.mode.text := by
  rw [traceLine, Machine6502.traceLine]
  cases Instruction.ofOpcode? call.opcode.toNat <;> rfl

theorem unescaped_traceLine (call : HookCall) : Unescaped call.traceLine := by
  rw [traceLine_eq]
  simp only [Text.unescaped_append, unescaped_hexText, and_true]
  refine ⟨by decide, ?_⟩
  cases Instruction.ofOpcode? call.opcode.toNat with
  | none => decide
  | some row =>
    have mnemonic : Unescaped row.operation.mnemonic := by
      cases row.operation <;> decide
    have mode : Unescaped row.mode.text := by
      cases row.mode <;> decide
    exact Text.unescaped_append.mpr ⟨Text.unescaped_append.mpr ⟨mnemonic, by decide⟩, mode⟩

/-- The line of an instruction is unnamed exactly when its opcode has no row. -/
theorem unnamed_traceLine :
    Unnamed call.traceLine ↔ Instruction.ofOpcode? call.opcode.toNat = none := by
  rw [traceLine_eq]
  cases Instruction.ofOpcode? call.opcode.toNat with
  | none => exact ⟨fun _ => rfl, fun _ => ⟨_, rfl⟩⟩
  | some row =>
    refine ⟨fun unnamed => absurd unnamed ?_, nofun⟩
    exact ((row.mode.certain_text.append _).append _).not_unnamed

end HookCall

/-! ## Attempts of a run after a reset -/

namespace Machine

variable {machine : Machine} {stackMode : StackMode} {calls : Nat}

/-- After a reset a run attempts the instructions that it completes, whose opcodes have rows; and if
it faults, one more, whose opcode has none. -/
theorem AfterCalls.attempts_eq (kept : machine.AfterCalls stackMode calls) (cycles : Int) :
    let run := machine.execute none cycles
    let journal := machine.journal none cycles
    let last := (machine.reached journal).site
    (∀ call ∈ journal.map Entry.site, Instruction.ofOpcode? call.opcode.toNat ≠ none) ∧
      ((∃ used, run.outcome = .exhausted used) ∧ machine.attempts cycles = journal.map Entry.site ∨
        run.outcome = .faulted (.unhandledOpcode last.opcode.toNat (some last.pc)) ∧
          machine.attempts cycles = journal.map Entry.site ++ [last] ∧
          Instruction.ofOpcode? last.opcode.toNat = none) := by
  intro run journal last
  constructor
  · intro call member
    obtain ⟨entry, listed, rfl⟩ := List.mem_map.mp member
    obtain ⟨spent, effect⟩ := effect_of_mem_journal machine none cycles entry listed
    obtain ⟨-, row, found, -⟩ := effect_eq_completed effect
    exact fun unlisted => nomatch found.symm.trans unlisted
  obtain ⟨count, kept⟩ := kept.of_reached cycles
  rcases machine.bare_run_end cycles with ⟨used, ends, -⟩ | ⟨fault, spent, ends, effect⟩
  · refine .inl ⟨⟨used, ends⟩, ?_⟩
    rw [attempts, failure?, ends]
    exact List.append_nil _
  · obtain ⟨outside, -, -⟩ | ⟨inside, unlisted, rfl, -⟩ | ⟨-, full, -, -, -⟩ :=
      effect_eq_faulted effect
    · exact absurd kept.pc outside
    · refine .inr ⟨ends, ?_, unlisted⟩
      rw [attempts, failure?, ends]
      dsimp only
      rw [if_pos inside]
      rfl
    · exact absurd kept.hasRoom full

end Machine

namespace Command

/-- The lines of a fault do not end as the line of an opcode without a row does. -/
theorem lines_of_closing (outcome : Outcome) :
    (∀ fault, outcome = .faulted fault →
      ∃ opcode address, fault = .unhandledOpcode opcode (some address)) →
    ∀ line ∈ (closing outcome).flatMap Diagnostic.lines, Unescaped line ∧ ¬ Unnamed line := by
  intro unhandled
  cases outcome with
  | exhausted used => exact nofun
  | stopped used => exact nofun
  | faulted fault =>
    obtain ⟨opcode, address, rfl⟩ := unhandled fault rfl
    have log : Unescaped ("ERROR sim6502.emulator.cpu: " ++ ("Instruction not handled: $" ++
        hexText 2 opcode ++ " at $" ++ hexText 4 address)) := by
      simp only [Text.unescaped_append, unescaped_hexText, and_true]
      decide
    have failure : Unescaped ("Emulation error: " ++ ("$" ++ hexText 4 address ++ ": " ++
        ("instruction not handled: opcode $" ++ hexText 2 opcode))) := by
      simp only [Text.unescaped_append, unescaped_hexText, and_true]
      decide
    refine List.forall_mem_cons.mpr ⟨⟨log, ?_⟩, List.forall_mem_singleton.mpr ⟨failure, ?_⟩⟩
    · exact (((certain_hexText 4 address).append _).append _).not_unnamed
    · exact ((((certain_hexText 2 opcode).append _).append _).append _).not_unnamed

/-- All that is told of a run whose details are not wanted, line by line. -/
theorem Settings.diagnosticText_of_report {settings : Settings} {data : List UInt8}
    (sound : settings.Sound) (supplies : settings.Supplies data)
    (fits : settings.address + data.length ≤ 65536) (quiet : settings.verbose = false) :
    let machine := settings.start data
    let told := if settings.trace then machine.attempts settings.cycles else []
    let errors := (closing (machine.execute none settings.cycles).outcome).flatMap Diagnostic.lines
    settings.report.diagnosticText =
      String.join ((told.map HookCall.traceLine ++ errors).map (· ++ "\n")) := by
  intro machine told errors
  have kept := afterCalls_start sound data
  have traced : (told.map Diagnostic.trace).flatMap Diagnostic.lines =
      told.map HookCall.traceLine := by
    rw [List.flatMap_map]
    exact List.map_eq_flatMap.symm
  rw [Report.diagnosticText, diagnostics_of_report sound supplies fits quiet, List.flatMap_append]
  refine (congrArg (fun lines => joinLines (lines ++ errors)) traced).trans (joinLines_eq ?_)
  refine List.forall_mem_append.mpr ⟨?_, fun line member => ?_⟩
  · intro line member
    obtain ⟨call, -, rfl⟩ := List.mem_map.mp member
    exact call.unescaped_traceLine
  · have unhandled := (Machine.AfterCalls.of_run machine settings.cycles 0 kept).2
    exact (lines_of_closing _ unhandled line member).1

/-- A flag for a trace in front turns the trace on. -/
theorem expressedBy_trace {settings : Settings} {files : Files} {commandLine : List String}
    (expressed : settings.ExpressedBy files commandLine) :
    Settings.ExpressedBy { settings with trace := true } files ("--trace" :: commandLine) := by
  have token : Token.ofArgument "--trace" = .ok (.flags [.trace]) := rfl
  rw [← Demand.ofCommandLine_eq_run, Demand.ofCommandLine_flag (.inl rfl) token,
    Demand.ofCommandLine_eq_run.mpr expressed]
  rfl

/-- Flags that only tell more leave the exit code and the output as they are. -/
theorem report_flags (files : Files) (flags commandLine : List String)
    (each : ∀ flag ∈ flags, flag = "--trace" ∨ flag = "-v") :
    let told (result : Report) := (result.exitCode.number, result.outputText)
    (report files (flags ++ commandLine)).map told = (report files commandLine).map told := by
  intro told
  induction flags with
  | nil => rfl
  | cons argument rest ih =>
    obtain ⟨here, later⟩ := List.forall_mem_cons.mp each
    rw [← ih later, List.cons_append]
    obtain ⟨flag, tells, token⟩ : ∃ flag : Switch, flag.Tells ∧
        Token.ofArgument argument = .ok (.flags [flag]) := by
      rcases here with rfl | rfl
      · exact ⟨.trace, .inl rfl, rfl⟩
      · exact ⟨.verbose, .inr rfl, rfl⟩
    rw [report, report, Demand.ofCommandLine_flag tells token]
    cases Demand.ofCommandLine files (rest ++ commandLine) with
    | error obstacle => cases obstacle <;> rfl
    | ok demand =>
      cases demand with
      | showVersion | showHelp => rfl
      | run settings =>
        obtain ⟨exitCode, output⟩ := settings.report_mark tells
        have same : told (settings.mark flag).report = told settings.report := by
          simp only [told, Report.outputText, exitCode, output]
        exact congrArg Except.ok same

/-- **Tracing a run does not change it, and shows it.**  Flags that ask for a trace or for details
leave the exit code and the output of every command as they are.  And where a command runs a program
and neither was asked for, a trace puts one line in front of the diagnostics for each instruction
that the run attempts, in order: its address, its opcode, and the mnemonic and mode of its row.  A
line ends in question marks exactly when it is the one of the instruction on which the run faults,
and the fault is that the opcode there has no row. -/
theorem report_traced (files : Files) (commandLine : List String) :
    (∀ flags : List String, (∀ flag ∈ flags, flag = "--trace" ∨ flag = "-v") →
      let told (result : Report) := (result.exitCode.number, result.outputText)
      (report files (flags ++ commandLine)).map told = (report files commandLine).map told) ∧
    ∀ (settings : Settings) (data : List UInt8), settings.ExpressedBy files commandLine →
      settings.trace = false → settings.verbose = false → settings.Supplies data →
      settings.address + data.length ≤ 65536 →
      let machine := settings.start data
      let run := machine.execute none settings.cycles
      let journal := machine.journal none settings.cycles
      let completed := journal.map Entry.site
      let last := (machine.reached journal).site
      let line (call : HookCall) : String :=
        "$" ++ hexText 4 call.pc ++ ": " ++ hexText 2 call.opcode.toNat ++ "  " ++
          (Instruction.ofOpcode? call.opcode.toNat).elim "???" fun row =>
            row.operation.mnemonic ++ " " ++ row.mode.text
      let text (lines : List String) : String := String.join (lines.map (· ++ "\n"))
      let traced : Settings := { settings with trace := true }
      ∃ plain errors traces,
        report files commandLine = .ok plain ∧ plain.diagnosticText = text errors ∧
        traced.ExpressedBy files ("--trace" :: commandLine) ∧
        (∀ commandLine', traced.ExpressedBy files commandLine' →
          ∃ result, report files commandLine' = .ok result ∧
            result.diagnosticText = text (traces ++ errors)) ∧
        (∀ shown ∈ completed.map line ++ errors, ¬ Unnamed shown) ∧
        ((∃ used, run.outcome = .exhausted used) ∧ traces = completed.map line ∨
          run.outcome = .faulted (.unhandledOpcode last.opcode.toNat (some last.pc)) ∧
            traces = completed.map line ++ [line last] ∧ Unnamed (line last)) := by
  refine ⟨fun flags each => report_flags files flags commandLine each, ?_⟩
  intro settings data expressed untraced quiet supplies fits machine run journal completed last line
    text traced
  have sound := expressed.sound
  have kept : machine.AfterCalls settings.stackMode 0 := Settings.afterCalls_start sound data
  obtain ⟨named, ends⟩ := kept.attempts_eq settings.cycles
  have same (call : HookCall) : call.traceLine = line call := call.traceLine_eq
  have lines (calls : List HookCall) : calls.map HookCall.traceLine = calls.map line :=
    List.map_congr_left fun call _ => same call
  let errors := (closing run.outcome).flatMap Diagnostic.lines
  let traces := (machine.attempts settings.cycles).map line
  refine ⟨settings.report, errors, traces, report_of_expressed expressed, ?_,
    expressedBy_trace expressed, ?_, ?_, ?_⟩
  · rw [Settings.diagnosticText_of_report sound supplies fits quiet, untraced,
      if_neg Bool.false_ne_true]
    rfl
  · intro commandLine' expressed'
    refine ⟨traced.report, report_of_expressed expressed', ?_⟩
    have supplies' : traced.Supplies data := supplies
    rw [Settings.diagnosticText_of_report expressed'.sound supplies' fits quiet, if_pos rfl, lines]
    rfl
  · refine List.forall_mem_append.mpr ⟨?_, fun shown member => ?_⟩
    · intro shown member
      obtain ⟨call, listed, rfl⟩ := List.mem_map.mp member
      rw [← same, HookCall.unnamed_traceLine]
      exact named call listed
    · have unhandled := (Machine.AfterCalls.of_run machine settings.cycles 0 kept).2
      exact (lines_of_closing _ unhandled shown member).2
  · rcases ends with ⟨exhausted, attempts⟩ | ⟨faulted, attempts, unlisted⟩
    · exact .inl ⟨exhausted, congrArg (List.map line) attempts⟩
    · refine .inr ⟨faulted, (congrArg (List.map line) attempts).trans ?_, ?_⟩
      · rw [List.map_append, List.map_singleton]
      · rw [← same, HookCall.unnamed_traceLine]
        exact unlisted

/-- A load, and then an opcode without a row. -/
theorem report_traced_unlisted :
    let files := Folder.entry {}
    let commandLine := ["--bytes", "A9 01 FF", "-n", "10"]
    let settings : Settings := { bytes := some "A9 01 FF", cycles := 10 }
    settings.ExpressedBy files commandLine ∧ settings.Supplies [0xA9, 0x01, 0xFF] ∧
      (report files (["-v", "--trace"] ++ commandLine)).map (fun result =>
        (result.exitCode.number, result.outputText)) = .ok (1, "") ∧
      ∃ result, report files ("--trace" :: commandLine) = .ok result ∧
        result.diagnosticText =
          "$FFFC: A9  LDA immediate\n$FFFE: FF  ???\n" ++
          "ERROR sim6502.emulator.cpu: Instruction not handled: $FF at $FFFE\n" ++
          "Emulation error: $FFFE: instruction not handled: opcode $FF\n" := by
  intro files commandLine settings
  have expressed : settings.ExpressedBy files commandLine := Demand.ofCommandLine_eq_run.mp rfl
  have supplies : settings.Supplies [0xA9, 0x01, 0xFF] := Settings.data_eq_ok.mp rfl
  obtain ⟨told, traced⟩ := report_traced files commandLine
  obtain ⟨plain, errors, traces, reports, plainText, traced, runs, -, ends⟩ :=
    traced settings _ expressed rfl rfl supplies (by decide)
  have same : plain = settings.report :=
    Except.ok.inj (reports.symm.trans (report_of_expressed expressed))
  refine ⟨expressed, supplies, ?_, ?_⟩
  · have fails : (settings.report.exitCode.number, settings.report.outputText) = (1, "") := by
      decide +kernel
    rw [told ["-v", "--trace"] (by decide), report_of_expressed expressed, ← fails]
    rfl
  · obtain ⟨result, reports', text⟩ := runs _ traced
    refine ⟨result, reports', text.trans ?_⟩
    rcases ends with ⟨⟨used, exhausted⟩, -⟩ | ⟨-, lines, -⟩
    · have fails : ((settings.start [0xA9, 0x01, 0xFF]).execute none 10).outcome.result.toOption =
          none := by
        decide +kernel
      rw [exhausted] at fails
      cases fails
    · dsimp only at plainText ⊢
      rw [List.map_append, String.join_append, ← plainText, same, lines]
      decide +kernel

end Command

end Machine6502
