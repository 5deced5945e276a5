import Machine6502.Proofs.DumpText
import Machine6502.Proofs.Transcript

/-!
# Loading and printing back

A run of no cycles leaves the machine as it was loaded.  So a command that is given bytes, a place
for them and nothing to run shows what it was given, and its output can be read as its input was.
On the way the bytes pass through the whole command: its arguments, a reset, a load, the run, a dump
and the lines of the report.

* `Memory.block_setAll_blank` — a block of a memory into which some bytes were loaded.
* `Registers.line_of_pc` — the registers of a reset, but for the program counter.
* `expressedBy_loading` — the command line with a given spelling of each argument.
* `Command.report_roundTrip` — what the dump of the command is read back as.
-/

namespace Machine6502

namespace Memory

/-- The block that is seen after some bytes were loaded into a cleared memory: the bytes where it
overlaps them, and zeros elsewhere. -/
theorem block_setAll_blank {start : Nat} {bytes : List UInt8}
    (fits : start + bytes.length ≤ 65536) {first count : Nat} (inside : first + count ≤ 65536) :
    (blank.setAll start bytes).block first count =
      (List.range count).map fun offset =>
        if start ≤ first + offset then bytes.getD (first + offset - start) 0 else 0 := by
  refine List.map_congr_left fun offset member => ?_
  have small : first + offset < 65536 := by
    have := List.mem_range.mp member
    omega
  rw [get_setAll blank fits small, get_blank]

/-- The block that was loaded is seen as it is. -/
theorem block_setAll (memory : Memory) {start : Nat} {bytes : List UInt8}
    (fits : start + bytes.length ≤ 65536) :
    (memory.setAll start bytes).block start bytes.length = bytes := by
  refine List.ext_getElem (length_block _ _ _) fun offset small small' => ?_
  have cell : start + offset < 65536 := by omega
  have here : start + offset - start = offset := Nat.add_sub_cancel_left start offset
  simp only [block, List.getElem_map, List.getElem_range]
  rw [get_setAll memory fits cell, if_pos (Nat.le_add_right start offset), here,
    List.getD_eq_getElem?_getD, List.getElem?_eq_getElem small', Option.getD_some]

end Memory

/-- A register file that holds an address, and otherwise what a reset leaves. -/
theorem Registers.line_of_pc (pc : Int) :
    line { pc } = "PC=$" ++ hexText 4 pc ++ " SP=$0100 A=$00 X=$00 Y=$00 P=$00 [-------]" := by
  have flags : flagLetters { pc } = flagLetters {} := rfl
  unfold line
  simp only [String.append_assoc, flags]
  refine congrArg (fun rest => "PC=$" ++ (hexText 4 pc ++ rest)) ?_
  decide +kernel

namespace Command

variable {files : Files} {text address cycles range : String} {data : List UInt8} {start : Nat}
  {count : Int} {shown : DumpRange}

/-- The invocation that loads bytes and dumps a range. -/
theorem expressedBy_loading (stackMode : StackMode) (place : readNumber address 0xFFFF = .ok start)
    (reads : Numeral.read? .decimal cycles.toList = some count)
    (asked : DumpRange.read range = .ok shown) (files : Files) :
    Settings.ExpressedBy
      { bytes := some text, address := start, cycles := count, stackMode, dumps := [shown] } files
      ["--bytes", text, "-a", address, "-n", cycles, "--stack-mode", stackMode.name, "--dump",
        range] := by
  let invocation : Invocation :=
    { bytes := some text, address := some address, cycles, stackMode := some stackMode.name
      dumps := [range], brief := fun switch => switch ≠ .bytes }
  have dumps : [range].mapM DumpRange.read = .ok [shown] := by
    rw [List.mapM_cons, asked]
    rfl
  have means : invocation.Means files
      { bytes := some text, address := start, cycles := count, stackMode, dumps := [shown] } := by
    constructor
    case address => exact place
    case cycles => exact reads
    case stackMode => cases stackMode <;> simp [invocation, StackMode.name]
    case dumps => exact dumps
    all_goals rfl
  exact (Invocation.expressedBy_iff.mpr means :)

/-- **What a command loads it can print back.**  Given bytes, their address and a range to be
dumped, in any spelling, and a count of cycles that is not positive, the command succeeds.  It has
used no cycles, its registers are those of a reset but for the program counter, and its dump is read
back as the given bytes where the range overlaps them, and zeros elsewhere. -/
theorem report_roundTrip (files : Files) (text address cycles range : String) (data : List UInt8)
    (start : Nat) (count : Int) (shown : DumpRange) (stackMode : StackMode)
    (bytes : readBytes text = .ok data) (nonempty : data ≠ [])
    (place : readNumber address 0xFFFF = .ok start) (fits : start + data.length ≤ 65536)
    (reads : Numeral.read? .decimal cycles.toList = some count) (nothing : count ≤ 0)
    (asked : DumpRange.read range = .ok shown) :
    let settings : Settings :=
      { bytes := some text, address := start, cycles := count, stackMode, dumps := [shown] }
    settings.ExpressedBy files ["--bytes", text, "-a", address, "-n", cycles, "--stack-mode",
        stackMode.name, "--dump", range] ∧
      ∀ commandLine, settings.ExpressedBy files commandLine →
        ∃ result lines, report files commandLine = .ok result ∧ result.exitCode.number = 0 ∧
          result.output = "Cycles: 0" ::
            ("PC=$" ++ hexText 4 start ++ " SP=$0100 A=$00 X=$00 Y=$00 P=$00 [-------]") :: lines ∧
          result.outputText = String.join (result.output.map (· ++ "\n")) ∧
          let decoded := readBytes (" ".intercalate (lines.map HexDump.payload))
          decoded = .ok ((List.range shown.count).map fun offset =>
            if start ≤ shown.start + offset then data.getD (shown.start + offset - start) 0
            else 0) ∧
          (shown = ⟨start, data.length⟩ → decoded = .ok data) := by
  intro settings
  refine ⟨expressedBy_loading stackMode place reads asked files, fun commandLine expressed => ?_⟩
  have sound := expressed.sound
  have supplies : settings.Supplies data := ⟨nonempty, data, bytes, rfl⟩
  have run : (settings.start data).execute none settings.cycles =
      ⟨.exhausted 0, settings.start data, none, []⟩ :=
    Machine.execute_of_nonpos _ none nothing
  obtain ⟨success, output⟩ :=
    Settings.output_of_returns sound supplies fits (congrArg (·.outcome.result) run)
  let memory := Memory.blank.setAll start data
  let lines := HexDump.lines shown.start (memory.block shown.start shown.count)
  have decoded : readBytes (" ".intercalate (lines.map HexDump.payload)) =
      .ok (memory.block shown.start shown.count) :=
    HexDump.readBytes_payloads _ _
  rw [run] at output
  have registers : (settings.start data).registers.line = "PC=$" ++ hexText 4 start ++
      " SP=$0100 A=$00 X=$00 Y=$00 P=$00 [-------]" :=
    Registers.line_of_pc start
  refine ⟨settings.report, lines, report_of_expressed expressed, success, ?_, ?_, ?_, ?_⟩
  · rw [output, Settings.shown, registers, List.flatMap_singleton]
    rfl
  · rw [Report.outputText, output]
    exact joinLines_eq (settings.unescaped_shown 0 _)
  · rw [decoded, Memory.block_setAll_blank fits (DumpRange.inside_of_read asked).2]
  · rintro rfl
    rw [decoded, Memory.block_setAll Memory.blank fits]

/-- A dump that begins before the loaded bytes and ends after them. -/
theorem report_roundTrip_overlap :
    let commandLine := ["--bytes", "a9,05 2 0", "-a", "$10", "-n", "-3", "--stack-mode", "paged",
      "--dump", "0x0E:6"]
    ∃ result lines, report (Folder.entry {}) commandLine = .ok result ∧
      result.output = "Cycles: 0" ::
        "PC=$0010 SP=$0100 A=$00 X=$00 Y=$00 P=$00 [-------]" :: lines ∧
      readBytes (" ".intercalate (lines.map HexDump.payload)) =
        .ok [0x00, 0x00, 0xA9, 0x05, 0x20, 0x00] := by
  intro commandLine
  obtain ⟨expressed, reports⟩ :=
    report_roundTrip (Folder.entry {}) "a9,05 2 0" "$10" "-3" "0x0E:6" [0xA9, 0x05, 0x20] 0x10 (-3)
      ⟨0x0E, 6⟩ .paged rfl (by decide) rfl (by decide) rfl (by decide) rfl
  obtain ⟨result, lines, reports, -, output, -, decoded, -⟩ := reports _ expressed
  refine ⟨result, lines, reports, output.trans ?_, decoded.trans ?_⟩
  · exact congrArg (fun registers => "Cycles: 0" :: registers :: lines) (by decide +kernel)
  · rfl

end Command

end Machine6502
