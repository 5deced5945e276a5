import Machine6502.Proofs.Journal

/-!
# Two runs in step

Two machines may differ and still execute the same program in the same way: one of them maps
its stack pointer differently, or holds other data in cells that nobody reads.  To show it, one
says what the two have in common (`Related`), and proves that one instruction keeps it.  This
module does the rest: the runs execute the same instructions at the same addresses, end in the
same way, and leave machines that have `Final` in common.

`Related` is told how many cycles are still to be run.  What two machines must have in common
can depend on what the rest of the run is going to do, and that is a function of the machine
and of the cycles that are left.  What is `seen` of an instruction is chosen per comparison: its
address and opcode, or what it writes as well.

* `Machine.Aligned` — the machines have the same instruction before them, with the same
  operands and the same cycles.
* `Lockstep` — the relation is kept by an instruction.
* `Lockstep.run` — what it gives for runs without a hook.
-/

namespace Machine6502

/-! ## The same instruction on two machines -/

/-- The two machines agree on all that an instruction, its operands and its cycles are found
from: the memory, the program counter and the index registers. -/
structure Machine.Aligned (machine twin : Machine) : Prop where
  memory : twin.memory = machine.memory
  pc : twin.registers.pc = machine.registers.pc
  x : twin.registers.x = machine.registers.x
  y : twin.registers.y = machine.registers.y

namespace Machine.Aligned

variable {machine twin : Machine}

theorem addressable (aligned : machine.Aligned twin)
    (inside : Memory.Addressable machine.registers.pc) : Memory.Addressable twin.registers.pc := by
  rwa [aligned.pc]

theorem byteAt (aligned : machine.Aligned twin) (address : Int) :
    twin.byteAt address = machine.byteAt address := by
  rw [Machine.byteAt, Machine.byteAt, aligned.memory]

theorem wordAt (aligned : machine.Aligned twin) (address : Int) :
    twin.wordAt address = machine.wordAt address := by
  rw [Machine.wordAt, Machine.wordAt, aligned.byteAt, aligned.byteAt]

theorem base (aligned : machine.Aligned twin) (site : Int) (mode : AddressingMode) :
    twin.base site mode = machine.base site mode := by
  cases mode <;> simp only [Machine.base, aligned.byteAt, aligned.wordAt]

theorem target (aligned : machine.Aligned twin) (site : Int) (mode : AddressingMode) :
    twin.target site mode = machine.target site mode := by
  cases mode <;>
    simp only [Machine.target, aligned.byteAt, aligned.wordAt, aligned.x, aligned.y]

theorem opcode (aligned : machine.Aligned twin) : twin.opcode = machine.opcode := by
  rw [Machine.opcode, Machine.opcode, aligned.byteAt, aligned.pc]

theorem site (aligned : machine.Aligned twin) : twin.site = machine.site := by
  rw [Machine.site, Machine.site, aligned.pc, aligned.opcode]

theorem row? (aligned : machine.Aligned twin) : twin.row? = machine.row? := by
  rw [Machine.row?, Machine.row?, aligned.opcode]

theorem cost (aligned : machine.Aligned twin) (row : Instruction) :
    twin.cost row = machine.cost row := by
  simp only [Machine.cost, aligned.base, aligned.target, aligned.pc]

end Machine.Aligned

/-! ## The same run on two machines -/

/-- **The step of a comparison of runs.**  As long as cycles are left, if the first of two
related machines completes its instruction, so does the second; in both the same is `seen`, in
the same cycles, and what they leave is related again; if the first one faults, so does the
second.  When the run ends, by a fault or because nothing is left, the machines have `Final`
in common. -/
structure Lockstep {α : Type} (seen : Entry → α) (Related : Int → Machine → Machine → Prop)
    (Final : Machine → Machine → Prop) : Prop where
  exhausted : ∀ {cycles machine twin}, cycles ≤ 0 → Related cycles machine twin →
    Final machine twin
  completed : ∀ {cycles machine twin left spent}, 0 < cycles → Related cycles machine twin →
    machine.effect = .completed left spent →
    ∃ left', twin.effect = .completed left' spent ∧ seen ⟨twin, left'⟩ = seen ⟨machine, left⟩ ∧
      Related (cycles - spent) left left'
  faulted : ∀ {cycles machine twin fault left spent}, 0 < cycles → Related cycles machine twin →
    machine.effect = .faulted fault left spent →
    ∃ left', twin.effect = .faulted fault left' spent ∧ Final left left'

/-- **Related machines run in step**: the same is seen of their instructions, one after the
other, the outcome is the same, and the final machines have `Final` in common. -/
theorem Lockstep.run {α : Type} {seen : Entry → α} {Related : Int → Machine → Machine → Prop}
    {Final : Machine → Machine → Prop} (lockstep : Lockstep seen Related Final)
    (machine : Machine) (cycles : Int) :
    ∀ twin, Related cycles machine twin →
      (twin.journal none cycles).map seen = (machine.journal none cycles).map seen ∧
        (twin.execute none cycles).outcome = (machine.execute none cycles).outcome ∧
        Final (machine.execute none cycles).machine (twin.execute none cycles).machine := by
  induction machine, cycles using Machine.bare_run_induction with
  | exhausted machine cycles le =>
    intro twin related
    rw [twin.execute_of_nonpos none le, machine.execute_of_nonpos none le,
      twin.journal_of_nonpos none le, machine.journal_of_nonpos none le]
    exact ⟨rfl, rfl, lockstep.exhausted le related⟩
  | faulted machine cycles fault left spent pos effect =>
    intro twin related
    obtain ⟨left', effect', final⟩ := lockstep.faulted pos related effect
    rw [Machine.execute_of_fault pos effect', Machine.execute_of_fault pos effect,
      Machine.journal_of_fault effect', Machine.journal_of_fault effect]
    exact ⟨rfl, rfl, final⟩
  | completed machine cycles left spent pos effect ih =>
    intro twin related
    obtain ⟨left', effect', same, related'⟩ := lockstep.completed pos related effect
    obtain ⟨later, outcome, final⟩ := ih left' related'
    rw [Machine.execute_of_effect pos effect', Machine.execute_of_effect pos effect,
      Machine.journal_of_effect pos effect', Machine.journal_of_effect pos effect]
    refine ⟨?_, congrArg (Outcome.after spent) outcome, final⟩
    rw [List.map_cons, List.map_cons, later, same]

end Machine6502
