import Machine6502.Command
import Machine6502.Proofs.Cells
import Machine6502.Proofs.Faults
import Machine6502.Proofs.Invocation
import Machine6502.Proofs.Observation
import Machine6502.Proofs.StackPointer

/-!
# How a command ends

A command prints its output piece by piece: the cycles, the registers, and one dump after the
other.  Still a command that fails has printed nothing.  Three facts carry that, and nothing in
the command checks any of them: a program that does not fit is noticed before anything is printed;
a run that follows a reset can only fault on an opcode without a row, and then nothing was printed
yet; and once something was printed nothing can fault any more, because a range to be dumped was
accepted only if it lies inside the memory.

* `Settings.Supplies` — the bytes of the program that the settings ask for.
* `Settings.start` — the machine that their run starts on, field by field.
* `Machine.MeetsUnlisted` — the run comes to an opcode without a row while it has cycles left.
* `Settings.Ends` — the four ways to carry out settings, each with its condition.
* `Command.report_allOrNothing` — the exit code and the output of every command line.
-/

namespace Machine6502

open Memory (Addressable)

/-! ## Runs that meet an unlisted opcode -/

/-- The instructions that a run completes lead it to an opcode without a row, and leave it cycles
to go on. -/
structure Machine.MeetsUnlisted (machine : Machine) (cycles : Int) : Prop where
  unlisted : ¬ (machine.reached (machine.journal none cycles)).Listed
  left : ((machine.journal none cycles).map Entry.cycles).sum < cycles

namespace Machine

variable {machine : Machine} {stackMode : StackMode} {calls : Nat} {cycles : Int}

theorem AfterCalls.of_reached (kept : machine.AfterCalls stackMode calls) (cycles : Int) :
    ∃ calls, (machine.reached (machine.journal none cycles)).AfterCalls stackMode calls :=
  (kept_along_journal (fun machine => ∃ calls, machine.AfterCalls stackMode calls)
    (fun ⟨_, kept⟩ effect => ⟨_, kept.of_effect effect⟩) machine cycles ⟨calls, kept⟩).2

/-- After a reset a run faults exactly when it meets an unlisted opcode, and the fault names the
opcode and its address. -/
theorem AfterCalls.faults_iff (kept : machine.AfterCalls stackMode calls) :
    (∃ fault, (machine.execute none cycles).outcome = .faulted fault) ↔
      machine.MeetsUnlisted cycles := by
  -- The run is a completed part, and what follows on the machine that this part leads to.
  have whole := machine.execute_resumed cycles (machine.journal none cycles).length
  rw [List.take_length] at whole
  dsimp only at whole
  obtain ⟨calls, last⟩ := kept.of_reached cycles
  constructor
  · rintro ⟨fault, faulted⟩
    rcases bare_run_end machine cycles with ⟨used, outcome, -⟩ | ⟨fault', spent, -, effect⟩
    · cases outcome.symm.trans faulted
    · refine ⟨?_, ?_⟩
      · rw [listed_iff last.pc]
        rintro ⟨row, found⟩
        obtain ⟨outside, -, -⟩ | ⟨-, unlisted, -, -⟩ | ⟨-, full, -, -, -⟩ :=
          effect_eq_faulted effect
        · exact outside last.pc
        · cases found.symm.trans unlisted
        · exact full last.hasRoom
      · by_contra nothing
        rw [whole, execute_of_nonpos _ none (by omega)] at faulted
        cases faulted
  · rintro ⟨unlisted, left⟩
    rw [listed_iff last.pc] at unlisted
    have found : (machine.reached (machine.journal none cycles)).row? = none :=
      Option.eq_none_iff_forall_ne_some.mpr fun row found => unlisted ⟨row, found⟩
    rw [whole, execute_of_fault (by omega) (effect_of_unlisted last.pc found)]
    exact ⟨_, rfl⟩

end Machine

namespace Command

namespace Settings

variable {settings : Settings} {data : List UInt8} {used : Int}

/-! ## The program and the machine -/

/-- The bytes that the text of further program bytes stands for; no text stands for none. -/
def inlineBytes (settings : Settings) : Except BadArgument (List UInt8) :=
  match settings.bytes with
  | some text => readBytes text
  | none => .ok []

/-- The settings ask for a program of these bytes: those of the file and then those of the text,
and at least one. -/
def Supplies (settings : Settings) (data : List UInt8) : Prop :=
  data ≠ [] ∧ ∃ inline, settings.inlineBytes = .ok inline ∧
    data = settings.program.getD [] ++ inline

/-- The machine that a run starts on: reset, with the program loaded, the program counter at the
entry or else at the load address, and the index registers as given or else zero. -/
def start (settings : Settings) (data : List UInt8) : Machine where
  stackMode := settings.stackMode
  memory := Memory.blank.setAll settings.address data
  registers :=
    { pc := settings.pc.getD settings.address, x := settings.x.getD 0, y := settings.y.getD 0 }

/-- The lines that show a run: the cycles it used, the registers, and the ranges of the memory, in
the order in which they were asked for. -/
def shown (settings : Settings) (used : Int) (final : Machine) : List String :=
  ["Cycles: " ++ toString used, final.registers.line] ++
    settings.dumps.flatMap fun range =>
      HexDump.lines range.start (final.memory.block range.start range.count)

theorem readBytes_of_isEmpty {text : String} (empty : text.isEmpty = true) :
    readBytes text = .ok [] := by
  rw [String.isEmpty_iff.mp empty]
  rfl

theorem data_eq (settings : Settings) :
    settings.data =
      match settings.inlineBytes with
      | .error bad => .error (.badArgument bad.message)
      | .ok inline =>
          match settings.program.getD [] ++ inline with
          | [] => .error (.badArgument "no program: give PROGRAM and/or --bytes")
          | data => .ok data := by
  unfold Settings.data inlineBytes
  cases settings.bytes with
  | none => rfl
  | some text =>
    dsimp only
    by_cases empty : text.isEmpty = true
    · rw [if_pos empty, readBytes_of_isEmpty empty]
      rfl
    · rw [if_neg empty]
      cases readBytes text <;> rfl

theorem data_eq_ok : settings.data = .ok data ↔ settings.Supplies data := by
  rw [data_eq, Supplies]
  cases settings.inlineBytes with
  | error bad => exact ⟨nofun, fun supplies => nomatch supplies.2⟩
  | ok inline =>
    simp only [Except.ok.injEq, exists_eq_left']
    cases settings.program.getD [] ++ inline with
    | nil => exact ⟨nofun, fun ⟨nonempty, empty⟩ => absurd empty nonempty⟩
    | cons first rest =>
      constructor
      · rintro ⟨⟩
        exact ⟨List.cons_ne_nil first rest, rfl⟩
      · rintro ⟨-, rfl⟩
        rfl

theorem data_eq_error {failure : Failure} (fails : settings.data = .error failure) :
    ∃ text, failure = .badArgument text := by
  rw [data_eq] at fails
  split at fails
  · cases fails
    exact ⟨_, rfl⟩
  · split at fails
    · cases fails
      exact ⟨_, rfl⟩
    · cases fails

theorem addressable_entry (sound : settings.Sound) :
    Addressable (settings.pc.getD settings.address : Nat) := by
  cases pc : settings.pc with
  | none => exact ⟨by omega, Int.ofNat_lt.mpr sound.address⟩
  | some value => exact ⟨by omega, Int.ofNat_lt.mpr (sound.pc value pc)⟩

theorem startRegisters_eq (sound : settings.Sound) (data : List UInt8) :
    settings.startRegisters = (settings.start data).registers := by
  have low {value : Nat} (small : value < 256) : Word.lowByte value = value :=
    Word.lowByte_eq_self (by omega) (by omega)
  have moved : settings.blankMachine.registers.setPc (settings.pc.getD settings.address : Nat) =
      { pc := (settings.pc.getD settings.address : Nat) } := by
    rw [Registers.setPc, Word.wrap_of_addressable (addressable_entry sound)]
    rfl
  rw [startRegisters, start, moved]
  cases x : settings.x with
  | none =>
    cases y : settings.y with
    | none => rfl
    | some y' => simp only [Option.elim, Registers.setY, low (sound.y y' y)]; rfl
  | some x' =>
    cases y : settings.y with
    | none => simp only [Option.elim, Registers.setX, low (sound.x x' x)]; rfl
    | some y' =>
      simp only [Option.elim, Registers.setX, Registers.setY, low (sound.x x' x),
        low (sound.y y' y)]
      rfl

theorem startMachine_eq_ok (sound : settings.Sound)
    (fits : settings.address + data.length ≤ 65536) :
    settings.startMachine data = .ok (settings.start data) := by
  rw [startMachine, Memory.load_eq_ok _ fits, startRegisters_eq sound data]
  rfl

theorem startMachine_eq_error (sound : settings.Sound)
    (beyond : 65536 < settings.address + data.length) :
    settings.startMachine data =
      .error (.addressOutOfRange (settings.address + data.length - 1)) := by
  rw [startMachine, Memory.load_eq_error _ sound.address beyond]
  rfl

theorem afterCalls_start (sound : settings.Sound) (data : List UInt8) :
    (settings.start data).AfterCalls settings.stackMode 0 where
  stackMode_eq := rfl
  pc := addressable_entry sound
  sp := by cases mode : settings.stackMode <;> rfl

/-! ## Carrying out settings -/

/-- Tracing a run does not change it. -/
theorem execute_hook (settings : Settings) (machine : Machine) (cycles : Int) :
    (machine.execute settings.hook cycles).outcome = (machine.execute none cycles).outcome ∧
      (machine.execute settings.hook cycles).machine = (machine.execute none cycles).machine := by
  cases trace : settings.trace with
  | true =>
    have run := (machine.execute_below_limit none 0 cycles (by rintro most ⟨⟩)).1
    rw [hook, trace, if_pos rfl]
    have same : machine.execute (some {}) cycles = _ := run
    rw [same]
    exact ⟨rfl, rfl⟩
  | false =>
    rw [hook, trace, if_neg Bool.false_ne_true]
    exact ⟨rfl, rfl⟩

/-- Ranges inside the memory are dumped without a fault. -/
theorem dumpLines_eq (memory : Memory) {ranges : List DumpRange}
    (inside : ∀ range ∈ ranges, range.start < 65536 ∧ range.start + range.count ≤ 65536) :
    dumpLines memory ranges =
      (ranges.flatMap fun range =>
        HexDump.lines range.start (memory.block range.start range.count), none) := by
  induction ranges with
  | nil => rfl
  | cons range rest ih =>
    obtain ⟨here, later⟩ := List.forall_mem_cons.mp inside
    rw [dumpLines, memory.dump_eq_ok here.2, ih later]
    rfl

variable {machine : Machine} {fault : Fault}

/-- A run that faults is reported without any output. -/
theorem reportRun_of_fault (diagnostics : List Diagnostic)
    (faulted : (machine.execute none settings.cycles).outcome = .faulted fault) :
    ∃ entries,
      settings.reportRun machine diagnostics = .ofFailure [] entries (.machine fault) := by
  rw [← (settings.execute_hook machine settings.cycles).1] at faulted
  rw [reportRun]
  simp only [faulted, Outcome.result]
  exact ⟨_, rfl⟩

/-- A run that returns is shown. -/
theorem reportRun_of_exhausted (sound : settings.Sound) (diagnostics : List Diagnostic)
    (ends : (machine.execute none settings.cycles).outcome = .exhausted used) :
    ∃ entries,
      settings.reportRun machine diagnostics =
        { exitCode := .success
          output := settings.shown used (machine.execute none settings.cycles).machine
          diagnostics := entries } := by
  obtain ⟨outcome, final⟩ := settings.execute_hook machine settings.cycles
  rw [← outcome] at ends
  rw [← final, reportRun]
  simp only [ends, Outcome.result, dumpLines_eq _ sound.dumps]
  exact ⟨_, rfl⟩

/-- The four ways to carry out settings, each with its condition and its report.  Only the last one
prints, and it prints everything. -/
inductive Ends (settings : Settings) : Report → Prop where
  | refused (text : String) (entries : List Diagnostic) :
      (∀ data, ¬ settings.Supplies data) →
      Ends settings (.ofFailure [] entries (.badArgument text))
  | overflows (data : List UInt8) (entries : List Diagnostic) :
      settings.Supplies data → 65536 < settings.address + data.length →
      Ends settings (.ofFailure [] entries
        (.machine (.addressOutOfRange (settings.address + data.length - 1))))
  | faults (data : List UInt8) (opcode address : Int) (entries : List Diagnostic) :
      settings.Supplies data → settings.address + data.length ≤ 65536 →
      ((settings.start data).execute none settings.cycles).outcome =
        .faulted (.unhandledOpcode opcode (some address)) →
      Ends settings (.ofFailure [] entries (.machine (.unhandledOpcode opcode (some address))))
  | returns (data : List UInt8) (used : Int) (entries : List Diagnostic) :
      settings.Supplies data → settings.address + data.length ≤ 65536 →
      ((settings.start data).execute none settings.cycles).outcome = .exhausted used →
      Ends settings
        { exitCode := .success
          output :=
            settings.shown used ((settings.start data).execute none settings.cycles).machine
          diagnostics := entries }

/-- **Settings are carried out in one of the four ways.** -/
theorem report_ends (sound : settings.Sound) : settings.Ends settings.report := by
  rw [report]
  cases supplied : settings.data with
  | error failure =>
    obtain ⟨text, rfl⟩ := data_eq_error supplied
    apply Ends.refused
    intro data supplies
    cases (data_eq_ok.mpr supplies).symm.trans supplied
  | ok data =>
    have supplies := data_eq_ok.mp supplied
    by_cases fits : settings.address + data.length ≤ 65536
    · simp only [startMachine_eq_ok sound fits]
      rcases (settings.start data).bare_run_end settings.cycles with ⟨used, ends, -⟩ |
        ⟨fault, -, faulted, -⟩
      · obtain ⟨entries, reports⟩ := reportRun_of_exhausted sound _ ends
        rw [reports]
        exact .returns data used entries supplies fits ends
      · obtain ⟨opcode, address, rfl⟩ :=
          (Machine.AfterCalls.of_run _ _ _ (afterCalls_start sound data)).2 fault faulted
        obtain ⟨entries, reports⟩ := reportRun_of_fault _ faulted
        rw [reports]
        exact .faults data opcode address entries supplies fits faulted
    · simp only [startMachine_eq_error sound (Nat.not_le.mp fits)]
      exact .overflows data _ supplies (Nat.not_le.mp fits)

theorem Supplies.unique {data' : List UInt8} (supplies : settings.Supplies data)
    (supplies' : settings.Supplies data') : data' = data :=
  Except.ok.inj ((data_eq_ok.mpr supplies').symm.trans (data_eq_ok.mpr supplies))

/-- What the report of some settings comes to: an exit code other than the one of an internal
error, output exactly on success, and an emulation error exactly when the program does not fit or
its run meets an unlisted opcode. -/
theorem Ends.exact {result : Report} (sound : settings.Sound) (ends : settings.Ends result) :
    (result.exitCode.number = 0 ∨ result.exitCode.number = 1 ∨ result.exitCode.number = 2) ∧
      (result.output = [] ↔ result.exitCode.number ≠ 0) ∧
      (result.exitCode.number = 1 ↔ ∃ data, settings.Supplies data ∧
        (65536 < settings.address + data.length ∨
          (settings.start data).MeetsUnlisted settings.cycles)) := by
  have meets (data : List UInt8) :
      (∃ fault, ((settings.start data).execute none settings.cycles).outcome = .faulted fault) ↔
        (settings.start data).MeetsUnlisted settings.cycles :=
    (afterCalls_start sound data).faults_iff
  cases ends with
  | refused text entries nothing =>
    refine ⟨.inr (.inr rfl), ⟨fun _ => nofun, fun _ => rfl⟩, nofun, ?_⟩
    rintro ⟨data, supplies, -⟩
    exact absurd supplies (nothing data)
  | overflows data entries supplies beyond =>
    refine ⟨.inr (.inl rfl), ⟨fun _ => nofun, fun _ => rfl⟩, ?_, fun _ => rfl⟩
    exact fun _ => ⟨data, supplies, .inl beyond⟩
  | faults data opcode address entries supplies fits faulted =>
    refine ⟨.inr (.inl rfl), ⟨fun _ => nofun, fun _ => rfl⟩, ?_, fun _ => rfl⟩
    exact fun _ => ⟨data, supplies, .inr ((meets data).mp ⟨_, faulted⟩)⟩
  | returns data used entries supplies fits returned =>
    refine ⟨.inl rfl, ⟨nofun, fun failed => absurd rfl failed⟩, nofun, ?_⟩
    rintro ⟨data', supplies', beyond | meeting⟩
    · rw [supplies.unique supplies'] at beyond
      omega
    · rw [supplies.unique supplies'] at meeting
      obtain ⟨fault, faulted⟩ := (meets data).mpr meeting
      cases returned.symm.trans faulted

/-- The run of sound settings does not leave the memory, and neither do the dumps after it. -/
theorem run_inside (sound : settings.Sound) (data : List UInt8) :
    let run := (settings.start data).execute settings.hook settings.cycles
    (∀ address, run.outcome ≠ .faulted (.addressOutOfRange address)) ∧
      ∀ range ∈ settings.dumps, ∃ bytes,
        run.machine.memory.dump range.start range.count = .ok bytes := by
  intro run
  refine ⟨?_, ?_⟩
  · intro address faulted
    have faulted := (settings.execute_hook _ _).1.symm.trans faulted
    obtain ⟨opcode, site, unhandled⟩ :=
      (Machine.AfterCalls.of_run _ _ _ (afterCalls_start sound data)).2 _ faulted
    cases unhandled
  · intro range listed
    exact ⟨_, run.machine.memory.dump_eq_ok (sound.dumps range listed).2⟩

end Settings

theorem joinLines_eq_empty {lines : List String} : joinLines lines = "" ↔ lines = [] := by
  cases lines with
  | nil => exact ⟨fun _ => rfl, fun _ => rfl⟩
  | cons line rest =>
    refine ⟨fun empty => ?_, nofun⟩
    have empty := congrArg String.toList empty
    simp [joinLines] at empty

/-- A command line that expresses settings has them carried out. -/
theorem report_of_expressed {files : Files} {commandLine : List String} {settings : Settings}
    (expressed : settings.ExpressedBy files commandLine) :
    report files commandLine = .ok settings.report := by
  rw [report, Demand.ofCommandLine_eq_run.mpr expressed]

theorem report_eq_error {files : Files} {commandLine : List String} {cause : Breakdown}
    (breaks : report files commandLine = .error cause) :
    Demand.ofCommandLine files commandLine = .error (.breakdown cause) := by
  rw [report] at breaks
  split at breaks
  · next demand => cases breaks; exact demand
  all_goals cases breaks

/-- **A command is all or nothing, and its exit code is exact.**  A command ends without a report
only when its program argument holds a null character.  Any other command succeeds with some output
or fails without any, and never with an internal error.  It fails with an emulation error exactly
when its command line is accepted, there is a program, and either the program does not fit or its
run, from a reset, meets an unlisted opcode while cycles are left.  Nothing else can leave the
memory: not the run, and not a dump. -/
theorem report_allOrNothing (files : Files) (commandLine : List String) :
    (∀ cause, report files commandLine = .error cause →
      ∃ arguments path, Arguments.ofList commandLine = .ok arguments ∧
        arguments.positional.head? = some path ∧ '\x00' ∈ path.toList) ∧
    (∀ result, report files commandLine = .ok result →
      (result.exitCode.number = 0 ∨ result.exitCode.number = 1 ∨ result.exitCode.number = 2) ∧
      (result.outputText = "" ↔ result.exitCode.number ≠ 0) ∧
      (result.exitCode.number = 1 ↔
        ∃ (settings : Settings) (data : List UInt8),
          settings.ExpressedBy files commandLine ∧ settings.Supplies data ∧
            (65536 < settings.address + data.length ∨
              (settings.start data).MeetsUnlisted settings.cycles))) ∧
    ∀ (settings : Settings) (data : List UInt8),
      settings.ExpressedBy files commandLine → settings.Supplies data →
      let run := (settings.start data).execute settings.hook settings.cycles
      (∀ address, run.outcome ≠ .faulted (.addressOutOfRange address)) ∧
        ∀ range ∈ settings.dumps, ∃ bytes,
          run.machine.memory.dump range.start range.count = .ok bytes := by
  have expressed_iff (settings : Settings) :
      Demand.ofCommandLine files commandLine = .ok (.run settings) ↔ _ :=
    Demand.ofCommandLine_eq_run
  refine ⟨?_, ?_, fun settings data expressed _ => Settings.run_inside expressed.sound data⟩
  · intro cause breaks
    exact Demand.ofCommandLine_eq_breakdown (report_eq_error breaks)
  · intro result reports
    simp only [Report.outputText, joinLines_eq_empty, ← expressed_iff]
    rw [report] at reports
    split at reports
    · cases reports
    · next misuse demand =>
      cases reports
      refine ⟨.inr (.inr rfl), ⟨fun _ => nofun, fun _ => rfl⟩, nofun, ?_⟩
      rintro ⟨settings, data, run, -⟩
      cases demand.symm.trans run
    · next demand =>
      cases reports
      refine ⟨.inl rfl, ⟨nofun, fun failed => absurd rfl failed⟩, nofun, ?_⟩
      rintro ⟨settings, data, run, -⟩
      cases demand.symm.trans run
    · next demand =>
      cases reports
      refine ⟨.inl rfl, ⟨nofun, fun failed => absurd rfl failed⟩, nofun, ?_⟩
      rintro ⟨settings, data, run, -⟩
      cases demand.symm.trans run
    · next settings demand =>
      cases reports
      have sound := ((expressed_iff settings).mp demand).sound
      obtain ⟨codes, output, fails⟩ := (Settings.report_ends sound).exact sound
      refine ⟨codes, output, fails.trans ?_⟩
      constructor
      · rintro ⟨data, supplies, cause⟩
        exact ⟨settings, data, demand, supplies, cause⟩
      · rintro ⟨settings', data, run, supplies, cause⟩
        cases demand.symm.trans run
        exact ⟨data, supplies, cause⟩

/-- Two loads and then an opcode without a row, behind a call that the entry passes over.  Each load
stays in its page with its own index register, and with the other one it would use up the last
cycle. -/
theorem report_allOrNothing_unlisted :
    let commandLine := ["-b", "20 00 02 BD F0 02 B9 00 02 FF", "-a", "$200", "--pc", "0x203",
      "-n", "9", "-x", "5", "-y", "$F0"]
    ∃ result, report (Folder.entry {}) commandLine = .ok result ∧
      result.exitCode.number = 1 ∧ result.outputText = "" := by
  intro commandLine
  let invocation : Invocation :=
    { bytes := some "20 00 02 BD F0 02 B9 00 02 FF", address := some "$200", pc := some "0x203"
      cycles := "9", x := some "5", y := some "$F0", brief := fun _ => true }
  let settings : Settings :=
    { bytes := some "20 00 02 BD F0 02 B9 00 02 FF", address := 0x200, pc := some 0x203
      cycles := 9, x := some 5, y := some 0xF0 }
  have reads : Numeral.read? .decimal "9".toList = some 9 := rfl
  have means : invocation.Means (Folder.entry {}) settings := by
    constructor
    case cycles => exact reads
    all_goals rfl
  have expressed : settings.ExpressedBy (Folder.entry {}) commandLine :=
    (Invocation.expressedBy_iff.mpr means :)
  let data : List UInt8 := [0x20, 0x00, 0x02, 0xBD, 0xF0, 0x02, 0xB9, 0x00, 0x02, 0xFF]
  have supplies : settings.Supplies data := Settings.data_eq_ok.mp rfl
  have meets : (settings.start data).MeetsUnlisted 9 :=
    ⟨by unfold Machine.Listed; decide +kernel, by decide +kernel⟩
  obtain ⟨-, ends, -⟩ := report_allOrNothing (Folder.entry {}) commandLine
  have reports := report_of_expressed expressed
  obtain ⟨-, output, fails⟩ := ends _ reports
  have one := fails.mpr ⟨settings, data, expressed, supplies, .inr meets⟩
  refine ⟨_, reports, one, output.mpr ?_⟩
  rw [one]
  decide

/-- A program argument with a null character leaves no exit code behind at all. -/
theorem report_nullInPath :
    report (Folder.entry {}) ["a\x00", "-n", "1"] = .error .nullInPath ∧
      ¬ ∃ result, report (Folder.entry {}) ["a\x00", "-n", "1"] = .ok result ∧
        (result.exitCode.number = 0 ∨ result.exitCode.number = 1 ∨ result.exitCode.number = 2) := by
  have breaks : report (Folder.entry {}) ["a\x00", "-n", "1"] = .error .nullInPath := rfl
  refine ⟨breaks, ?_⟩
  rintro ⟨result, reports, -⟩
  cases breaks.symm.trans reports

end Command

end Machine6502
