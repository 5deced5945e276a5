import Machine6502.Proofs.Accumulator
import Machine6502.Proofs.SingleStep

/-!
# The last load of a run

After a reset the accumulator is zero and the zero flag is clear, and a restored register file can
hold anything at all.  So there is nothing that the accumulator and its two flags always agree on.
What can be said is relative to the history of the run: they agree from the first load that the run
completes, and they tell of the last one.

* `Entry.isLoad` — the entries of a journal that are loads.
* `Machine.exists_last_load` — the place of the last load in a journal.
* `Machine.execute_registers` — the registers after a run, by the journal of the run.

What the loads of a run put into the accumulator, and that the last one counts, is the subject of
`Machine.accumulator_of_run`.  This module finds that load in the journal and reads its byte from
the cells it had before it, which calls may have written to since.
-/

namespace Machine6502

/-! ## Loads in a journal -/

namespace Entry

/-- The instruction was a load. -/
def isLoad (entry : Entry) : Bool :=
  entry.before.row?.any fun row => row.operation == .lda

variable {entry : Entry}

theorem isLoad_iff :
    entry.isLoad = true ↔ ∃ row, entry.before.row? = some row ∧ row.operation = .lda := by
  rw [isLoad, Option.any_eq_true]
  simp only [beq_iff_eq]

/-- Only loads put something into the accumulator. -/
theorem loaded?_eq_none_iff : entry.loaded? = none ↔ entry.isLoad = false := by
  constructor
  · intro nothing
    rw [← Bool.not_eq_true, isLoad_iff]
    rintro ⟨row, found, load⟩
    rw [Machine.loaded?_of_load found load] at nothing
    cases nothing
  · intro other
    rw [loaded?]
    split
    · next found =>
      rw [isLoad, found] at other
      cases other
    · rfl

/-- What a load puts into the accumulator is the operand of its mode. -/
theorem operand_of_loaded? {byte : UInt8} (loaded : entry.loaded? = some byte) :
    ∃ row, entry.before.row? = some row ∧ row.operation = .lda ∧
      (byte.toNat : Int) =
        row.mode.operand entry.before.memory.value entry.before.registers.pc
          entry.before.registers.x entry.before.registers.y := by
  have load : entry.isLoad = true := by
    rw [← Bool.not_eq_false, ← loaded?_eq_none_iff, loaded]
    exact Option.some_ne_none byte
  obtain ⟨row, found, lda⟩ := isLoad_iff.mp load
  refine ⟨row, found, lda, ?_⟩
  rw [Machine.loaded?_of_load found lda] at loaded
  cases loaded
  exact entry.before.toNat_byteAt_target row.mode

end Entry

namespace Machine

variable {machine : Machine} {cycles : Int}

theorem loads_eq_nil_iff :
    machine.loads cycles = [] ↔ ∀ entry ∈ machine.journal none cycles, entry.isLoad = false := by
  rw [loads, List.filterMap_eq_nil_iff]
  exact forall₂_congr fun _ _ => Entry.loaded?_eq_none_iff

/-- The last byte that a run loads belongs to a load of its journal after which there are no
others. -/
theorem exists_last_load {byte : UInt8} (last_byte : (machine.loads cycles).getLast? = some byte) :
    ∃ earlier last later, machine.journal none cycles = earlier ++ last :: later ∧
      last.loaded? = some byte ∧ ∀ entry ∈ later, entry.isLoad = false := by
  obtain ⟨bytes, split⟩ := List.getLast?_eq_some_iff.mp last_byte
  obtain ⟨front, back, split, -, back_loads⟩ := List.filterMap_eq_append_iff.mp split
  obtain ⟨between, last, later, rfl, -, loaded, later_loads⟩ :=
    List.filterMap_eq_cons_iff.mp back_loads
  refine ⟨front ++ between, last, later, ?_, loaded, ?_⟩
  · rw [split, List.append_assoc]
  · intro entry member
    exact Entry.loaded?_eq_none_iff.mp (List.filterMap_eq_nil_iff.mp later_loads entry member)

end Machine

/-! ## The registers after a run -/

namespace Registers

variable (registers : Registers) (loads : List UInt8)

@[simp] theorem afterLoads_x : (registers.afterLoads loads).x = registers.x := by
  rw [afterLoads]
  cases loads.getLast? <;> rfl

@[simp] theorem afterLoads_y : (registers.afterLoads loads).y = registers.y := by
  rw [afterLoads]
  cases loads.getLast? <;> rfl

@[simp] theorem unused_afterLoads :
    (registers.afterLoads loads).status.unused = registers.status.unused := by
  rw [status_afterLoads]

/-- Loads set the zero flag and the negative flag. -/
theorem get_afterLoads {flag : Flag} (not_zero : flag ≠ .zero) (not_negative : flag ≠ .negative) :
    (registers.afterLoads loads).status.get flag = registers.status.get flag := by
  rw [status_afterLoads]
  cases flag with
  | zero => exact absurd rfl not_zero
  | negative => exact absurd rfl not_negative
  | carry | interruptDisable | decimal | breakCommand | overflow => rfl

/-- After some loads the accumulator and its two flags are those of the last byte. -/
theorem afterLoads_of_getLast? {byte : UInt8} (last : loads.getLast? = some byte) :
    registers.afterLoads loads =
      { registers with
        a := byte.toNat
        status := { registers.status with
          zero := decide ((byte.toNat : Int) = 0)
          negative := byte.toNat.testBit 7 } } := by
  rw [afterLoads, last]
  exact registers.flagAccumulator_setA byte

end Registers

namespace Machine

/-- **What a run does to the registers.**  However it ends, a run without a hook keeps the index
registers, and of the status every bit but the zero flag and the negative flag.

If it completes a load, the accumulator holds the operand of the last one, and the two flags are those
of that byte, whatever was called since.  Otherwise the accumulator and the flags are what they were,
and they need not agree. -/
theorem execute_registers (machine : Machine) (cycles : Int) :
    let initial := machine.registers
    let final := (machine.execute none cycles).machine.registers
    let journal := machine.journal none cycles
    (final.x = initial.x ∧ final.y = initial.y ∧ final.status.unused = initial.status.unused ∧
      ∀ flag, flag ≠ .zero → flag ≠ .negative →
        final.status.get flag = initial.status.get flag) ∧
    ((∃ entry ∈ journal, entry.isLoad = true) →
      ∃ earlier last later row, journal = earlier ++ last :: later ∧
        last.before.row? = some row ∧ row.operation = .lda ∧
        (∀ entry ∈ later, entry.isLoad = false) ∧
        final.a = row.mode.operand last.before.memory.value last.before.registers.pc
          last.before.registers.x last.before.registers.y ∧
        0 ≤ final.a ∧ final.a < 256 ∧
        final.status.zero = decide (final.a = 0) ∧
        final.status.negative = final.a.toNat.testBit 7) ∧
    ((∀ entry ∈ journal, entry.isLoad = false) →
      final.a = initial.a ∧ final.status = initial.status) := by
  intro initial final journal
  have run := machine.registers_of_run cycles
  obtain ⟨a_eq, status_eq⟩ := machine.accumulator_of_run cycles
  refine ⟨⟨?_, ?_, ?_, ?_⟩, ?_, ?_⟩
  · exact (congrArg Registers.x run).trans (initial.afterLoads_x _)
  · exact (congrArg Registers.y run).trans (initial.afterLoads_y _)
  · exact (congrArg Status.unused status_eq).trans (initial.unused_afterLoads _)
  · intro flag not_zero not_negative
    exact (congrArg (Status.get · flag) status_eq).trans
      (initial.get_afterLoads _ not_zero not_negative)
  · rintro ⟨entry, member, load⟩
    cases last_byte : (machine.loads cycles).getLast? with
    | none =>
      have no_load := List.getLast?_eq_none_iff.mp last_byte
      rw [loads_eq_nil_iff.mp no_load entry member] at load
      cases load
    | some byte =>
      obtain ⟨earlier, last, later, split, loaded, others⟩ := exists_last_load last_byte
      obtain ⟨row, found, lda, operand⟩ := Entry.operand_of_loaded? loaded
      rw [initial.afterLoads_of_getLast? _ last_byte] at a_eq status_eq
      have a : final.a = byte.toNat := a_eq
      have bound := byte.toNat_lt
      refine ⟨earlier, last, later, row, split, found, lda, others, a.trans operand, ?_, ?_, ?_, ?_⟩
      · omega
      · omega
      · rw [a]
        exact congrArg Status.zero status_eq
      · rw [a, Int.toNat_natCast]
        exact congrArg Status.negative status_eq
  · intro no_load
    rw [← loads_eq_nil_iff] at no_load
    rw [no_load] at a_eq status_eq
    exact ⟨a_eq, status_eq⟩

/-- A load of `$80` and a call of `$0034`, where no instruction is.  The registers hold values that
they have no room for, and a zero flag that is wrong of the accumulator. -/
theorem execute_registers_load_call :
    let status : Status := { carry := true, zero := true, unused := true }
    let machine := { holding .flat [0xA9, 0x80, 0x20, 0x34] with
      registers := { a := 7, x := 300, y := -1, status } }
    let run := machine.execute none 100
    run.outcome = .faulted (.unhandledOpcode 0 (some 0x34)) ∧
      run.machine.registers.a = 0x80 ∧ run.machine.registers.x = 300 ∧
      run.machine.registers.y = -1 ∧
      run.machine.registers.status = { carry := true, unused := true, negative := true } := by
  intro status machine run
  have a : run.machine.registers.a = 0x80 := by decide +kernel
  have some_load : ∃ entry ∈ machine.journal none 100, entry.isLoad = true := by decide +kernel
  obtain ⟨⟨x, y, unused, others⟩, loaded, -⟩ := machine.execute_registers 100
  obtain ⟨-, -, -, -, -, -, -, -, -, -, -, zero, negative⟩ := loaded some_load
  refine ⟨by decide +kernel, a, x, y, Status.eq_of_get_eq (fun flag => ?_) unused⟩
  cases flag with
  | zero => exact zero.trans (by rw [a]; rfl)
  | negative => exact negative.trans (by rw [a]; rfl)
  | carry | interruptDisable | decimal | breakCommand | overflow =>
    exact others _ (by decide) (by decide)

end Machine

end Machine6502
