import Machine6502.Proofs.Lockstep

/-!
# Flat and paged stacks

A flat stack grows through the whole memory, a paged one stays in the page from `$0100` on.
As long as the flat pointer has not left that page, nothing else tells the two apart.  The one
place where they differ is the push that fills the page: it leaves the flat pointer at `$0200`
and takes the paged one back to `$0100`, and until the next push nobody looks.

* `Machine.folded` — the paged machine that stands for a flat one, its pointer taken back into
  the page.
* `Machine.StaysInPage` — the flat stack stays in the page over the run to come.
* `Machine.lockstep_folded` — a flat machine and its folded twin run in step.
* `Machine.execute_paged` — the two modes over whole runs.
-/

namespace Machine6502

open Memory (Addressable)

namespace Machine

/-- The paged machine that stands for a flat one. -/
def folded (machine : Machine) : Machine :=
  { machine with
    stackMode := .paged
    registers := { machine.registers with sp := stackPage + Word.lowByte machine.registers.sp } }

/-- A flat machine whose stack stays in the page for some cycles: the pointer starts there, and
the calls that the run is going to complete do not take it further than to the end. -/
structure StaysInPage (cycles : Int) (machine : Machine) : Prop where
  flat : machine.stackMode = .flat
  pc : Addressable machine.registers.pc
  low : 256 ≤ machine.registers.sp
  high : machine.registers.sp + 2 * (machine.journal none cycles).countP Entry.isCall ≤ 512

variable {machine left : Machine} {cycles spent : Int}

/-! ## One instruction -/

theorem aligned_folded (machine : Machine) : machine.Aligned machine.folded := ⟨rfl, rfl, rfl, rfl⟩

theorem hasRoom_folded (machine : Machine) : machine.folded.HasRoom := nofun

theorem loaded_folded (machine : Machine) (mode : AddressingMode) :
    machine.folded.loaded mode = (machine.loaded mode).folded := by
  have operand := machine.aligned_folded.target (machine.registers.pc + 1) mode
  rw [loaded, machine.aligned_folded.pc, operand, machine.aligned_folded.byteAt]
  rfl

/-- A call that ends inside the page, or right at its end, writes the same two cells. -/
theorem called_folded (flat : machine.stackMode = .flat) (low : 256 ≤ machine.registers.sp)
    (high : machine.registers.sp ≤ 510) : machine.folded.called = machine.called.folded := by
  have cells : machine.folded.stackCell 0 = machine.stackCell 0 ∧
      machine.folded.stackCell 1 = machine.stackCell 1 := by
    simp only [stackCell, folded, flat, stackPage, Word.lowByte]
    omega
  have pointer : Word.wrap (machine.folded.stackCell 2) =
      stackPage + Word.lowByte (Word.wrap (machine.stackCell 2)) := by
    simp only [stackCell, folded, flat, stackPage, Word.lowByte, Word.wrap]
    omega
  have memory : machine.folded.called.memory = machine.called.memory := by
    rw [called_memory, called_memory, cells.1, cells.2]
    rfl
  rw [called_eq, memory, pointer, machine.aligned_folded.wordAt, called_eq]
  rfl

theorem hasRoom_of_inPage (low : 256 ≤ machine.registers.sp) (high : machine.registers.sp ≤ 512) :
    machine.HasRoom := fun _ => by omega

/-- A call moves the pointer of a flat stack on by two. -/
theorem called_sp_of_inPage (flat : machine.stackMode = .flat) (low : 256 ≤ machine.registers.sp)
    (high : machine.registers.sp ≤ 510) :
    machine.called.registers.sp = machine.registers.sp + 2 := by
  simp only [called_sp, stackCell, flat, Word.wrap]
  omega

/-- **One instruction inside the page.**  Its pointer counts the call, if it is one; the rest
of the run stays in the page as well; and the folded machine does the same. -/
theorem StaysInPage.of_effect (stays : machine.StaysInPage cycles) (pos : 0 < cycles)
    (effect : machine.effect = .completed left spent) :
    left.StaysInPage (cycles - spent) ∧
      left.registers.sp =
        machine.registers.sp + 2 * (if Entry.isCall ⟨machine, left⟩ then 1 else 0 : Nat) ∧
      machine.folded.effect = .completed left.folded spent := by
  have pc := addressable_pc_of_effect effect
  have low := stays.low
  have high := stays.high
  rw [journal_of_effect pos effect, List.countP_cons] at high
  have aligned := machine.aligned_folded
  obtain ⟨inside, row, found, rfl, ⟨load, rfl⟩ | ⟨jump, -, rfl⟩⟩ := effect_eq_completed effect
  · have noCall : Entry.isCall ⟨machine, machine.loaded row.mode⟩ = false :=
      Entry.isCall_of_load found load
    rw [noCall, if_neg Bool.false_ne_true] at high ⊢
    have folds := effect_of_load (aligned.addressable inside) (aligned.row?.trans found) load
    rw [loaded_folded, aligned.cost] at folds
    exact ⟨⟨stays.flat, pc, low, high⟩, (Int.add_zero _).symm, folds⟩
  · have call : Entry.isCall ⟨machine, machine.called⟩ = true := Entry.isCall_of_call found jump
    rw [call, if_pos rfl] at high ⊢
    -- The call itself is one of those that fit, so there are two cells left for it.
    have two : machine.registers.sp ≤ 510 := by omega
    have sp := called_sp_of_inPage stays.flat low two
    have folds := effect_of_call (aligned.addressable inside) (aligned.row?.trans found) jump
      machine.hasRoom_folded
    rw [called_folded stays.flat low two, aligned.cost] at folds
    exact ⟨⟨stays.flat, pc, by omega, by omega⟩, sp, folds⟩

/-- Inside the page the only fault is an opcode without a row, and the folded machine has it
too. -/
theorem StaysInPage.of_fault {fault : Fault} (stays : machine.StaysInPage cycles)
    (effect : machine.effect = .faulted fault left spent) :
    (∃ opcode address, fault = .unhandledOpcode opcode (some address)) ∧
      left.registers.sp = machine.registers.sp ∧
      machine.folded.effect = .faulted fault left.folded spent := by
  have low := stays.low
  have high := stays.high
  obtain ⟨outside, -, -⟩ | ⟨inside, unlisted, rfl, rfl⟩ | ⟨-, full, -, -, -⟩ :=
    effect_eq_faulted effect
  · exact absurd stays.pc outside
  · refine ⟨⟨_, _, rfl⟩, rfl, ?_⟩
    have aligned := machine.aligned_folded
    have folds := effect_of_unlisted (aligned.addressable inside) (aligned.row?.trans unlisted)
    rw [aligned.opcode, aligned.pc] at folds
    rw [effect_of_unlisted inside unlisted] at effect
    cases effect
    exact folds
  · exact absurd (hasRoom_of_inPage low (by omega)) full

/-! ## Whole runs -/

/-- A flat machine whose stack stays in its page runs in step with the folded one. -/
theorem lockstep_folded :
    Lockstep Entry.site (fun cycles flat paged => flat.StaysInPage cycles ∧ paged = flat.folded)
      (fun flat paged => paged = flat.folded) where
  exhausted := by
    rintro cycles machine twin - ⟨-, rfl⟩
    rfl
  completed := by
    rintro cycles machine twin left spent pos ⟨stays, rfl⟩ effect
    obtain ⟨stays', -, effect'⟩ := stays.of_effect pos effect
    exact ⟨left.folded, effect', machine.aligned_folded.site, stays', rfl⟩
  faulted := by
    rintro cycles machine twin fault left spent - ⟨stays, rfl⟩ effect
    obtain ⟨-, -, effect'⟩ := stays.of_fault effect
    exact ⟨left.folded, effect', rfl⟩

/-- Inside the page the pointer counts the calls of a run, and a run ends by using its budget
up or on an opcode without a row. -/
theorem StaysInPage.of_run (machine : Machine) (cycles : Int) (stays : machine.StaysInPage cycles) :
    (machine.execute none cycles).machine.registers.sp =
        machine.registers.sp + 2 * (machine.journal none cycles).countP Entry.isCall ∧
      ((∃ used, (machine.execute none cycles).outcome = .exhausted used) ∨
        ∃ opcode address, (machine.execute none cycles).outcome =
          .faulted (.unhandledOpcode opcode (some address))) := by
  induction machine, cycles using bare_run_induction with
  | exhausted machine cycles le =>
    rw [execute_of_nonpos machine none le, journal_of_nonpos machine none le]
    exact ⟨by simp, .inl ⟨0, rfl⟩⟩
  | faulted machine cycles fault left spent pos effect =>
    obtain ⟨⟨opcode, address, rfl⟩, sp, -⟩ := stays.of_fault effect
    rw [execute_of_fault pos effect, journal_of_fault effect]
    exact ⟨by simp [sp], .inr ⟨opcode, address, rfl⟩⟩
  | completed machine cycles left spent pos effect ih =>
    obtain ⟨stays', sp, -⟩ := stays.of_effect pos effect
    obtain ⟨pointer, outcome⟩ := ih stays'
    rw [execute_of_effect pos effect, journal_of_effect pos effect, List.countP_cons]
    refine ⟨?_, ?_⟩
    · show (left.execute none (cycles - spent)).machine.registers.sp = _
      omega
    · rcases outcome with ⟨used, same⟩ | ⟨opcode, address, same⟩
      · exact .inl ⟨spent + used, congrArg (Outcome.after spent) same⟩
      · exact .inr ⟨opcode, address, congrArg (Outcome.after spent) same⟩

/-- **Flat and paged stacks are the same inside the page.**  Take a machine whose stack pointer
is in the page from `$0100` on, and let the calls that its run completes on a flat stack fit
there.  Then the run on a paged stack executes the same instructions at the same addresses,
ends in the same way and leaves the same memory and the same registers, except for the stack
pointer: when the calls have filled the page, the flat one is at its end and the paged one at
its start. -/
theorem execute_paged (machine : Machine) (cycles : Int) (pc : Addressable machine.registers.pc)
    (low : 256 ≤ machine.registers.sp) (high : machine.registers.sp ≤ 511) :
    let flat : Machine := { machine with stackMode := .flat }
    let paged : Machine := { machine with stackMode := .paged }
    let onFlat := flat.execute none cycles
    let onPaged := paged.execute none cycles
    let calls : Nat := (flat.journal none cycles).countP Entry.isCall
    let pointer := machine.registers.sp + 2 * calls
    pointer ≤ 512 →
      (paged.journal none cycles).map Entry.site = (flat.journal none cycles).map Entry.site ∧
      onPaged.outcome = onFlat.outcome ∧
      ((∃ used, onFlat.outcome = .exhausted used) ∨
        ∃ opcode address, onFlat.outcome = .faulted (.unhandledOpcode opcode (some address))) ∧
      onPaged.machine.memory = onFlat.machine.memory ∧
      onPaged.machine.registers =
        { onFlat.machine.registers with sp := onPaged.machine.registers.sp } ∧
      onFlat.machine.registers.sp = pointer ∧
      onPaged.machine.registers.sp = if pointer = 512 then 256 else pointer := by
  intro flat paged onFlat onPaged calls pointer fits
  have stays : flat.StaysInPage cycles := ⟨rfl, pc, low, fits⟩
  -- A pointer inside the page is its own folding, so the paged machine is the folded one.
  have folds : paged = flat.folded := by
    have sp : stackPage + Word.lowByte machine.registers.sp = machine.registers.sp := by
      simp only [stackPage, Word.lowByte]
      omega
    simp only [folded, flat, sp, paged]
  obtain ⟨sites, outcome, final⟩ := lockstep_folded.run flat cycles paged ⟨stays, folds⟩
  obtain ⟨sp, ends⟩ := stays.of_run
  have final : onPaged.machine = onFlat.machine.folded := final
  have sp : onFlat.machine.registers.sp = pointer := sp
  have sp' : onPaged.machine.registers.sp = stackPage + Word.lowByte pointer := by
    rw [final, ← sp]; rfl
  refine ⟨sites, outcome, ends, by rw [final]; rfl, by rw [final]; rfl, sp, ?_⟩
  · rw [sp']
    simp only [stackPage, Word.lowByte]
    have : 256 ≤ pointer := by omega
    split <;> omega

/-- A call that fills the page and, at the address it goes to, a load. -/
theorem execute_paged_full_page :
    let machine : Machine :=
      { holding .flat [0x20, 0xFF, 0xFF, 0xA9] with registers := { sp := 510 } }
    let paged : Machine := { machine with stackMode := .paged }
    let calls : Nat := (machine.journal none 7).countP Entry.isCall
    Addressable machine.registers.pc ∧ 256 ≤ machine.registers.sp ∧
      machine.registers.sp ≤ 511 ∧ machine.registers.sp + 2 * calls ≤ 512 ∧
      (paged.execute none 7).outcome = .exhausted 8 ∧
      (machine.execute none 7).machine.registers.sp = 512 ∧
      (paged.execute none 7).machine.registers.sp = 256 := by
  intro machine paged calls
  have one : calls = 1 := by decide +kernel
  have fits : machine.registers.sp + 2 * calls ≤ 512 := by rw [one]; decide
  have onFlat : (machine.execute none 7).outcome = .exhausted 8 := by decide +kernel
  obtain ⟨-, outcome, -, -, -, sp, sp'⟩ :=
    execute_paged machine 7 (by decide) (by decide) (by decide) fits
  have full : machine.registers.sp + 2 * calls = 512 := by rw [one]; decide
  refine ⟨by decide, by decide, by decide, fits, outcome.trans onFlat, sp.trans full, ?_⟩
  exact sp'.trans (if_pos full)

end Machine

end Machine6502
