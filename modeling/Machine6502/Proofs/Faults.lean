import Machine6502.Proofs.Journal

/-!
# When a step faults

A step has four ways to end, and the machine alone decides between them.  Outside the
memory nothing can be fetched; an opcode may have no row; a call may find no room on a flat
stack; and in every other case the instruction completes.  In the three faults nothing but
the program counter has moved: a push checks both of its cells before it writes one, and all
other accesses that can fault come before any change.

* `Machine.Listed` — the opcode has a row.
* `Machine.Overflows` — the instruction is a call without room.
* `Machine.step_faults` — the four ways, each with exactly its condition, and what a
  faulted run leaves.
-/

namespace Machine6502

open Memory (Addressable)

namespace Machine

/-- The cell at the program counter holds an opcode of the instruction table. -/
def Listed (machine : Machine) : Prop :=
  ∃ row ∈ Instruction.table, row.opcode = machine.memory.get machine.registers.pc.toNat

/-- The instruction is a call that would push a byte outside the memory. -/
def Overflows (machine : Machine) : Prop :=
  machine.memory.get machine.registers.pc.toNat = 0x20 ∧ machine.stackMode = .flat ∧
    ¬ (0 ≤ machine.registers.sp ∧ machine.registers.sp ≤ 65534)

variable {machine : Machine}

theorem listed_iff (inside : Addressable machine.registers.pc) :
    machine.Listed ↔ ∃ row, machine.row? = some row := by
  rw [Listed, ← machine.byteAt_of_addressable inside, ← Option.isSome_iff_exists]
  constructor
  · rintro ⟨row, member, opcode⟩
    cases found : machine.row? with
    | none => exact absurd opcode (row?_eq_none_iff.mp found row member)
    | some row' => rfl
  · intro found
    obtain ⟨row, found⟩ := Option.isSome_iff_exists.mp found
    exact ⟨row, mem_table_of_row? found⟩

theorem overflows_iff (inside : Addressable machine.registers.pc) :
    machine.Overflows ↔ machine.opcode = 0x20 ∧ ¬ machine.HasRoom := by
  rw [Overflows, ← machine.byteAt_of_addressable inside, HasRoom, Classical.not_imp]
  rfl

/-- The four ways a step can end, and the fault and the machine of each. -/
theorem step_cases (machine : Machine) :
    (¬ Addressable machine.registers.pc ∧ machine.step none =
        ⟨.faulted (.addressOutOfRange machine.registers.pc), machine, none, []⟩) ∨
      (Addressable machine.registers.pc ∧ ¬ machine.Listed ∧ machine.step none =
        ⟨.faulted (.unhandledOpcode machine.opcode.toNat (some machine.registers.pc)),
          machine.skip 1, none, []⟩) ∨
      (Addressable machine.registers.pc ∧ machine.Listed ∧ machine.Overflows ∧ machine.step none =
        ⟨.faulted (.addressOutOfRange machine.overrun), machine.skip 3, none, []⟩) ∨
      (Addressable machine.registers.pc ∧ machine.Listed ∧ ¬ machine.Overflows ∧
        ∃ used left, machine.step none = ⟨.exhausted used, left, none, []⟩) := by
  -- The effect decides which case it is; the conditions are read off its inversion.
  cases effect : machine.effect with
  | completed left spent =>
    obtain ⟨inside, row, found, -, kind⟩ := effect_eq_completed effect
    have listed := (listed_iff inside).mpr ⟨row, found⟩
    refine .inr (.inr (.inr ⟨inside, listed, ?_, spent, left, step_of_effect effect⟩))
    rw [overflows_iff inside, ← operation_eq_jsr_iff found]
    rintro ⟨jump, full⟩
    rcases kind with ⟨load, -⟩ | ⟨-, room, -⟩
    · exact absurd (load.symm.trans jump) (by decide)
    · exact full room
  | faulted fault left spent =>
    have ends := step_of_fault effect
    obtain ⟨outside, rfl, rfl⟩ | ⟨inside, unlisted, rfl, rfl⟩ |
      ⟨inside, full, ⟨row, found, jump⟩, rfl, rfl⟩ := effect_eq_faulted effect
    · exact .inl ⟨outside, ends⟩
    · refine .inr (.inl ⟨inside, ?_, ends⟩)
      rw [listed_iff inside, unlisted]
      rintro ⟨row, found⟩
      cases found
    · have listed := (listed_iff inside).mpr ⟨row, found⟩
      have overflows := (overflows_iff inside).mpr ⟨(operation_eq_jsr_iff found).mp jump, full⟩
      exact .inr (.inr (.inl ⟨inside, listed, overflows, ends⟩))

theorem skip_three_ne (machine : Machine) : machine ≠ machine.skip 3 := by
  intro same
  have pc := congrArg (fun machine : Machine => machine.registers.pc) same
  simp only [skip_pc, Word.wrap] at pc
  omega

/-- A fault moves the program counter and nothing else. -/
theorem eq_of_fault {left : Machine} {fault : Fault} {spent : Int}
    (effect : machine.effect = .faulted fault left spent) :
    left = { machine with registers := { machine.registers with pc := left.registers.pc } } := by
  obtain ⟨-, -, rfl⟩ | ⟨-, -, -, rfl⟩ | ⟨-, -, -, -, rfl⟩ := effect_eq_faulted effect <;> rfl

/-- **When a step faults, and what a fault leaves.**  Outside the memory a step changes
nothing; on an opcode without a row it has moved the program counter by one byte; and a call
without room has moved it by three and names the first cell that does not exist.  In every
other case it completes.

So a run that faults has completed the instructions of its journal, each as a step of its
own, and then moved at most the program counter. -/
theorem step_faults (machine : Machine) :
    let pc := machine.registers.pc
    let sp := machine.registers.sp
    let opcode := machine.memory.get pc.toNat
    let moved (bytes : Int) : Machine :=
      { machine with registers := { machine.registers with pc := (pc + bytes) % 65536 } }
    let missing := if 0 ≤ sp ∧ sp ≤ 65535 then 65536 else sp
    (¬ Addressable pc ↔
      machine.step none = ⟨.faulted (.addressOutOfRange pc), machine, none, []⟩) ∧
    (Addressable pc ∧ ¬ machine.Listed ↔ machine.step none =
      ⟨.faulted (.unhandledOpcode opcode.toNat (some pc)), moved 1, none, []⟩) ∧
    (Addressable pc ∧ machine.Listed ∧ machine.Overflows ↔ machine.step none =
      ⟨.faulted (.addressOutOfRange missing), moved 3, none, []⟩) ∧
    (Addressable pc ∧ machine.Listed ∧ ¬ machine.Overflows ↔
      ∃ used left, machine.step none = ⟨.exhausted used, left, none, []⟩) ∧
    ∀ cycles fault, (machine.execute none cycles).outcome = .faulted fault →
      let journal := machine.journal none cycles
      let last := machine.reached journal
      let final := (machine.execute none cycles).machine
      machine.Linked journal ∧
        (∀ entry ∈ journal, ∃ used,
          entry.before.step none = ⟨.exhausted used, entry.after, none, []⟩) ∧
        last.step none = ⟨.faulted fault, final, none, []⟩ ∧
        final = { last with registers := { last.registers with pc := final.registers.pc } } := by
  intro pc sp opcode moved missing
  have address : missing = machine.overrun := by
    simp only [overrun, missing, sp, Memory.addressable_iff]
    split <;> split <;> omega
  have skips (bytes : Int) : moved bytes = machine.skip bytes := rfl
  have cell (inside : Addressable pc) : opcode = machine.opcode :=
    (machine.byteAt_of_addressable inside).symm
  have distinct := machine.skip_three_ne
  rw [address, skips, skips, ← and_assoc, ← and_assoc, ← and_assoc]
  refine ⟨?_, ?_⟩
  · -- The four ends differ from each other, so each of them tells its condition.
    rcases machine.step_cases with ⟨outside, ends⟩ | ⟨inside, unlisted, ends⟩ |
      ⟨inside, listed, overflows, ends⟩ | ⟨inside, listed, fits, used, left, ends⟩
    · simp [ends, pc, outside, distinct]
    · simp [ends, pc, cell inside, inside, unlisted]
    · simp [ends, pc, inside, listed, overflows, distinct.symm]
    · simp [ends, pc, inside, listed, fits]
  · intro cycles fault faulted journal last final
    refine ⟨linked_journal machine cycles, ?_, ?_⟩
    · intro entry member
      obtain ⟨used, effect⟩ := effect_of_mem_journal machine none cycles entry member
      exact ⟨used, step_of_effect effect⟩
    · rcases bare_run_end machine cycles with ⟨used, outcome, -⟩ | ⟨fault', spent, outcome, effect⟩
      · cases outcome.symm.trans faulted
      · cases outcome.symm.trans faulted
        exact ⟨step_of_fault effect, eq_of_fault effect⟩

/-- The last cell of the memory has no room for a word: a call pushes nothing there, not
even the byte that would fit. -/
theorem step_faults_last_cell :
    let machine := { holding .flat [0x20, 0x00, 0x80] with registers := { sp := 65535 } }
    machine.step none = ⟨.faulted (.addressOutOfRange 65536),
      { machine with registers := { machine.registers with pc := 65535 } }, none, []⟩ := by
  intro machine
  obtain ⟨-, -, overflow, -⟩ := machine.step_faults
  have listed : machine.Listed :=
    ⟨{ opcode := 0x20, operation := .jsr, mode := .absolute, cycles := 6 }, by decide,
      by decide +kernel⟩
  have overflows : machine.Overflows := ⟨by decide +kernel, rfl, by decide⟩
  exact overflow.mp ⟨by decide, listed, overflows⟩

end Machine

end Machine6502
