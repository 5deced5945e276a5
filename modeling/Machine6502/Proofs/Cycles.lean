import Machine6502.Proofs.Journal
import Mathlib.Algebra.Ring.Int.Defs

/-!
# The cycles of the table

The instruction table lists cycles, and a run never looks at them: it is charged for its
accesses one by one.  This module proves that the two descriptions agree, over whole runs.

The table also says which rows pay for a page.  A run compares the pages of two addresses,
the second of which was wrapped; a programmer adds the index to the low byte of the first
and looks for a carry.  For an index that is a byte these are the same
(`Word.crossesPage_wrap_add`), also at the end of memory.

* `Machine.index` is added to `Machine.base` in the rows that pay.
* `Machine.tableCycles` — what the table says about the instruction at the program counter.
* `Machine.execute_cycles` — a run that returns has used the sum of these.
-/

namespace Machine6502

/-- Wrapping the sum does not hide a carry: the page after the last one is the first. -/
theorem Word.crossesPage_wrap_add (base : Int) {index : Int} (nonneg : 0 ≤ index)
    (small : index < 256) :
    crossesPage base (wrap (base + index)) = decide (255 < lowByte base + index) := by
  rw [Bool.eq_iff_iff, crossesPage, bne_iff_ne, decide_eq_true_iff]
  simp only [highByte, wrap, lowByte]
  omega

namespace Machine

variable {machine left : Machine} {cycles spent : Int}

/-- The cycles of the instruction at the program counter as the table tells them: those of
its row, and one more when the row has a page penalty and the index carries. -/
def tableCycles (machine : Machine) : Int :=
  match machine.row? with
  | none => 0
  | some row =>
      let low := Word.lowByte (machine.base (machine.registers.pc + 1) row.mode)
      if row.pagePenalty ∧ 255 < low + machine.index row.mode then row.cycles + 1
      else row.cycles

/-- The rows that pay for a page find their operand at a sum. -/
theorem target_of_pagePenalty (machine : Machine) (site : Int) {row : Instruction}
    (member : row ∈ Instruction.table) (penalty : row.pagePenalty) :
    machine.target site row.mode =
      Word.wrap (machine.base site row.mode + machine.index row.mode) := by
  have indexed : row.mode = .absoluteX ∨ row.mode = .absoluteY ∨ row.mode = .indirectY := by
    revert row
    decide
  rcases indexed with mode | mode | mode <;> rw [mode] <;> rfl

theorem index_of_fitted (fitted : machine.registers.Fitted) (mode : AddressingMode) :
    0 ≤ machine.index mode ∧ machine.index mode < 256 := by
  cases mode with
  | zeroPageX | absoluteX | indirectX => exact fitted.x
  | absoluteY | indirectY => exact fitted.y
  | immediate | zeroPage | absolute => simp [index]

/-- One instruction is charged what the table says. -/
theorem tableCycles_eq_of_effect (fitted : machine.registers.Fitted)
    (effect : machine.effect = .completed left spent) : machine.tableCycles = spent := by
  obtain ⟨-, row, found, rfl, -⟩ := effect_eq_completed effect
  obtain ⟨nonneg, small⟩ := index_of_fitted fitted row.mode
  rw [tableCycles, found]
  dsimp only
  cases penalty : row.pagePenalty with
  | false => simp [cost, penalty]
  | true =>
    -- Only here do the pages matter, and only here is the target a sum that was wrapped.
    have sum := machine.target_of_pagePenalty (machine.registers.pc + 1)
      (mem_table_of_row? found).1 penalty
    simp only [cost, penalty, sum, Word.crossesPage_wrap_add _ nonneg small, Bool.true_and,
      true_and]
    split
    · next carries => rw [decide_eq_true carries]; rfl
    · next carries => rw [decide_eq_false carries]; rfl

/-- What a loop over instructions adds up: a run that returns has used the cycles of its
journal, whatever it returns after. -/
theorem used_eq_sum (machine : Machine) (cycles : Int) (fitted : machine.registers.Fitted) :
    ∀ used, (machine.execute none cycles).outcome.result = .ok used →
      used = ((machine.journal none cycles).map fun entry => entry.before.tableCycles).sum := by
  -- Along the run of a machine, whose registers go on fitting; `used` differs at each step.
  induction machine, cycles using bare_run_induction with
  | exhausted machine cycles le =>
    intro used returns
    rw [execute_of_nonpos machine none le] at returns
    rw [journal_of_nonpos machine none le]
    cases returns
    rfl
  | faulted machine cycles fault left spent pos effect =>
    intro used returns
    rw [execute_of_fault pos effect] at returns
    cases returns
  | completed machine cycles left spent pos effect ih =>
    intro used returns
    rw [execute_of_effect pos effect] at returns
    obtain ⟨rest, later, rfl⟩ := Outcome.result_after_eq_ok.mp returns
    rw [journal_of_effect pos effect, List.map_cons, List.sum_cons,
      tableCycles_eq_of_effect fitted effect, ← ih (fitted_of_effect fitted effect) rest later]

/-- Where an instruction leaves the program counter: a load after its last byte, a call at
the word that follows its opcode. -/
theorem pc_of_effect {row : Instruction} (found : machine.row? = some row)
    (effect : machine.effect = .completed left spent) :
    (row.operation = .lda →
        left.registers.pc = (machine.registers.pc + row.size) % 65536) ∧
      (row.operation = .jsr → left.registers.pc = machine.wordAt (machine.registers.pc + 1)) := by
  obtain ⟨-, row', found', -, kind⟩ := effect_eq_completed effect
  cases found.symm.trans found'
  rcases kind with ⟨load, rfl⟩ | ⟨jump, -, rfl⟩
  · refine ⟨?_, ?_⟩
    · intro _
      rw [loaded_pc, Instruction.size, Word.wrap]
      omega
    · intro jump
      exact absurd (load.symm.trans jump) (by decide)
  · refine ⟨?_, ?_⟩
    · intro load
      exact absurd (load.symm.trans jump) (by decide)
    · intro _
      exact machine.called_pc

/-- **The table and the charges agree over whole runs.**  A run without a hook that returns
has used the sum of the table's cycles over the instructions it completed.  These form a
chain from the machine the run began on to the one it ended on, and each of them is a row of
the table: alone it takes the table's cycles, a load goes on after its last byte, and a call
goes to its operand. -/
theorem execute_cycles (machine : Machine) (cycles used : Int)
    (fitted : machine.registers.Fitted)
    (returns : (machine.execute none cycles).outcome.result = .ok used) :
    let journal := machine.journal none cycles
    used = (journal.map fun entry => entry.before.tableCycles).sum ∧
      machine.Linked journal ∧
      (machine.execute none cycles).machine = machine.reached journal ∧
      ∀ entry ∈ journal, ∃ row ∈ Instruction.table, entry.before.row? = some row ∧
        entry.before.step none = ⟨.exhausted entry.before.tableCycles, entry.after, none, []⟩ ∧
        (row.operation = .lda →
          entry.after.registers.pc = (entry.before.registers.pc + row.size) % 65536) ∧
        (row.operation = .jsr →
          entry.after.registers.pc = entry.before.wordAt (entry.before.registers.pc + 1)) := by
  intro journal
  have last : (machine.execute none cycles).machine = machine.reached journal := by
    rcases bare_run_end machine cycles with ⟨-, -, same⟩ | ⟨fault, -, outcome, -⟩
    · exact same
    · rw [outcome] at returns
      cases returns
  refine ⟨used_eq_sum machine cycles fitted used returns, linked_journal machine cycles, last, ?_⟩
  intro entry member
  -- The registers fit at every instruction, not only at the first.
  obtain ⟨spent, effect⟩ := effect_of_mem_journal machine none cycles entry member
  obtain ⟨-, row, found, -, -⟩ := effect_eq_completed effect
  have fits : entry.before.registers.Fitted :=
    (kept_along_journal (fun machine => machine.registers.Fitted) fitted_of_effect machine cycles
      fitted).1 entry member
  refine ⟨row, (mem_table_of_row? found).1, found, ?_, pc_of_effect found effect⟩
  rw [step_of_effect effect, tableCycles_eq_of_effect fits effect]

/-- A load whose index carries out of the page of `$02FF`, and a call. -/
theorem execute_cycles_load_call :
    let machine := { holding .flat [0xBD, 0xFF, 0x02, 0x20] with registers := { x := 1 } }
    let journal := machine.journal none 7
    machine.registers.Fitted ∧ (machine.execute none 7).outcome.result = .ok 11 ∧
      (journal.map fun entry => entry.before.tableCycles) = [5, 6] ∧
      11 = (journal.map fun entry => entry.before.tableCycles).sum := by
  intro machine journal
  have fitted : machine.registers.Fitted :=
    ⟨by decide, by decide, by decide, by decide, by decide⟩
  have ends : (machine.execute none 7).outcome = .exhausted 11 := by decide +kernel
  have returns : (machine.execute none 7).outcome.result = .ok 11 := by rw [ends]; rfl
  refine ⟨fitted, returns, by decide +kernel, ?_⟩
  exact (execute_cycles machine 7 11 fitted returns).1

end Machine

end Machine6502
