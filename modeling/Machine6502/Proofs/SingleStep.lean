import Machine6502.Proofs.Cells
import Machine6502.Proofs.Faults

/-!
# One load and one call, cell by cell

`Machine.effect` tells what an instruction does in the terms of the machine: addresses that wrap,
words, a stack cell.  A programmer thinks in cells instead, and counts from the program counter.
This module restates the two instructions that way, as one equation each for a whole step.

* `AddressingMode.operand` — the byte that a load of each mode finds, as arithmetic on the cells.
* `Machine.step_load` — what a load leaves: the accumulator, two flags and the program counter are
  new and nothing else is.
* `Machine.step_call` — what a call leaves: two cells, the program counter and the stack pointer are
  new.

### Where things wrap

The operand bytes follow the opcode through the end of memory.  A zero-page index stays in the zero
page, an index that is added to a word goes through the end of memory, and the second byte of a
pointer simply comes after the first, at `$0100` if the first is at `$00FF`.

A call reads its target before it pushes.  So it does not matter where the stack is, and the call may
well be pushed over by itself.
-/

namespace Machine6502

open Memory (Addressable)

/-- The byte in the cell at an address, as a number. -/
def Memory.value (memory : Memory) (address : Int) : Int := (memory.get address.toNat).toNat

namespace Memory

theorem value_set_self (memory : Memory) (address : Int) (byte : UInt8) :
    (memory.set address.toNat byte).value address = byte.toNat := by
  rw [value, get_set_self]

theorem value_set_of_ne (memory : Memory) {address other : Int} (byte : UInt8)
    (h : Addressable address) (h' : Addressable other) (ne : other ≠ address) :
    (memory.set address.toNat byte).value other = memory.value other := by
  have apart : other.toNat ≠ address.toNat := by
    have := h.nonneg
    have := h'.nonneg
    omega
  rw [value, get_set_of_ne memory byte (toNat_lt_size h) (toNat_lt_size h') apart, value]

/-- Two cells after each of them was written, and the cells that were not. -/
theorem value_set_set (memory : Memory) {low high : Int} (first second : UInt8)
    (h : Addressable low) (h' : Addressable high) (ne : high ≠ low) :
    let after := (memory.set low.toNat first).set high.toNat second
    after.value low = first.toNat ∧ after.value high = second.toNat ∧
      ∀ address, Addressable address → address ≠ low → address ≠ high →
        after.value address = memory.value address := by
  intro after
  refine ⟨?_, value_set_self _ _ _, ?_⟩
  · rw [value_set_of_ne _ _ h' h ne.symm, value_set_self]
  · intro address named neLow neHigh
    rw [value_set_of_ne _ _ h' named neHigh, value_set_of_ne _ _ h named neLow]

end Memory

/-- The byte that a load finds whose opcode is at `pc`, where `m` gives the bytes of the cells. -/
def AddressingMode.operand (m : Int → Int) (pc x y : Int) (mode : AddressingMode) : Int :=
  let b₁ := m ((pc + 1) % 65536)
  let b₂ := m ((pc + 2) % 65536)
  let w := b₁ + 256 * b₂
  let p := (b₁ + x) % 256
  match mode with
  | .immediate => b₁
  | .zeroPage => m b₁
  | .zeroPageX => m p
  | .absolute => m w
  | .absoluteX => m ((w + x) % 65536)
  | .absoluteY => m ((w + y) % 65536)
  | .indirectX => m (m p + 256 * m (p + 1))
  | .indirectY => m ((m b₁ + 256 * m (b₁ + 1) + y) % 65536)

/-- A row of the table is the one that its opcode is looked up as. -/
theorem Instruction.ofOpcode?_of_mem_table {row : Instruction} (member : row ∈ table) :
    ofOpcode? row.opcode.toNat = some row := by
  revert row
  decide

/-- The highest bit of a byte. -/
theorem testBit_seven {byte : Nat} (small : byte < 256) : byte.testBit 7 = decide (128 ≤ byte) := by
  rw [Nat.testBit_eq_decide_div_mod_eq, decide_eq_decide]
  omega

/-- The registers after a byte was put into the accumulator, with the two flags by its bits. -/
theorem Registers.flagAccumulator_setA (registers : Registers) (byte : UInt8) :
    (registers.setA byte.toNat).flagAccumulator =
      { registers with
        a := byte.toNat
        status := { registers.status with
          zero := decide ((byte.toNat : Int) = 0)
          negative := byte.toNat.testBit 7 } } := by
  have bound := byte.toNat_lt
  have kept : Word.lowByte byte.toNat = byte.toNat := Word.lowByte_eq_self (by omega) (by omega)
  have highest : decide (128 ≤ (byte.toNat : Int)) = byte.toNat.testBit 7 := by
    rw [testBit_seven bound, decide_eq_decide]
    omega
  simp only [setA, flagAccumulator, kept, highest]
  rfl

namespace Machine

variable {machine : Machine} {row : Instruction} {mode : AddressingMode}

/-- The row of an opcode that stands at the program counter. -/
theorem row?_of_mem_table (inside : Addressable machine.registers.pc)
    (member : row ∈ Instruction.table)
    (opcode : row.opcode = machine.memory.get machine.registers.pc.toNat) :
    machine.row? = some row := by
  rw [row?, Machine.opcode, machine.byteAt_of_addressable inside, ← opcode]
  exact Instruction.ofOpcode?_of_mem_table member

/-! ## Loads -/

theorem toNat_byteAt (machine : Machine) (address : Int) :
    ((machine.byteAt address).toNat : Int) = machine.memory.value (address % 65536) :=
  rfl

/-- At an address that names a cell there is nothing to wrap. -/
theorem toNat_byteAt_of_addressable {address : Int} (h : Addressable address) :
    ((machine.byteAt address).toNat : Int) = machine.memory.value address := by
  rw [machine.byteAt_of_addressable h, Memory.value]

/-- The word that follows the opcode. -/
theorem wordAt_succ (machine : Machine) (pc : Int) :
    machine.wordAt (pc + 1) = machine.memory.value ((pc + 1) % 65536) +
      256 * machine.memory.value ((pc + 2) % 65536) := by
  rw [wordAt, Word.ofBytes, toNat_byteAt, toNat_byteAt, Int.add_assoc]
  rfl

/-- The word in two cells. -/
theorem wordAt_of_addressable {address : Int} (low : Addressable address)
    (high : Addressable (address + 1)) :
    machine.wordAt address =
      machine.memory.value address + 256 * machine.memory.value (address + 1) := by
  rw [wordAt, Word.ofBytes, toNat_byteAt_of_addressable low, toNat_byteAt_of_addressable high]

/-- The word of a pointer in the zero page, which may end at `$0100`. -/
theorem wordAt_of_zeroPage {pointer : Int} (nonneg : 0 ≤ pointer) (small : pointer < 256) :
    machine.wordAt pointer =
      machine.memory.value pointer + 256 * machine.memory.value (pointer + 1) :=
  wordAt_of_addressable ⟨nonneg, by omega⟩ ⟨by omega, by omega⟩

/-- **A load finds its operand where the cells say.** -/
theorem toNat_byteAt_target (machine : Machine) (mode : AddressingMode) :
    ((machine.byteAt (machine.target (machine.registers.pc + 1) mode)).toNat : Int) =
      mode.operand machine.memory.value machine.registers.pc machine.registers.x
        machine.registers.y := by
  have cell := machine.addressable_target (machine.registers.pc + 1) mode
  have first := machine.toNat_byteAt (machine.registers.pc + 1)
  have word := machine.wordAt_succ machine.registers.pc
  have byte := (machine.byteAt (machine.registers.pc + 1)).toNat_lt
  cases mode with
  | immediate => rw [target, byteAt_wrap, toNat_byteAt]; rfl
  | zeroPage =>
    rw [toNat_byteAt_of_addressable cell, target, first]
    rfl
  | zeroPageX =>
    rw [toNat_byteAt_of_addressable cell, target, first]
    rfl
  | absolute =>
    rw [toNat_byteAt_of_addressable cell, target, word]
    rfl
  | absoluteX | absoluteY =>
    rw [toNat_byteAt_of_addressable cell, target, word]
    rfl
  | indirectX =>
    rw [toNat_byteAt_of_addressable cell, target,
      wordAt_of_zeroPage (Word.lowByte_nonneg _) (Word.lowByte_lt _), first]
    rfl
  | indirectY =>
    rw [toNat_byteAt_of_addressable cell, target, wordAt_of_zeroPage (by omega) (by omega), first]
    rfl

/-- The machine after a load, cell by cell. -/
theorem loaded_eq (machine : Machine) (mode : AddressingMode) :
    let registers := machine.registers
    let operand := mode.operand machine.memory.value registers.pc registers.x registers.y
    machine.loaded mode =
      { machine with
        registers := { registers with
          pc := (registers.pc + (1 + mode.operandSize)) % 65536
          a := operand
          status := { registers.status with
            zero := decide (operand = 0)
            negative := operand.toNat.testBit 7 } } } := by
  intro registers operand
  have byte : ((machine.byteAt (machine.target (machine.registers.pc + 1) mode)).toNat : Int) =
      operand := machine.toNat_byteAt_target mode
  rw [loaded, Registers.flagAccumulator_setA, ← byte, Int.toNat_natCast]
  simp only [Registers.setPc, Word.wrap, Int.add_assoc]
  rfl

/-- **A load, cell by cell.**  Whatever the registers hold, a load does not fault.  It puts the
operand of its mode into the accumulator, sets the zero flag and the negative flag by it and goes on
after its last byte; the other registers, the other bits of the status and the memory are what they
were. -/
theorem step_load (machine : Machine) (row : Instruction)
    (inside : Addressable machine.registers.pc) (member : row ∈ Instruction.table)
    (opcode : row.opcode = machine.memory.get machine.registers.pc.toNat)
    (load : row.operation = .lda) :
    let registers := machine.registers
    let operand := row.mode.operand machine.memory.value registers.pc registers.x registers.y
    machine.step none =
      ⟨.exhausted (machine.cost row),
        { machine with
          registers := { registers with
            pc := (registers.pc + row.size) % 65536
            a := operand
            status := { registers.status with
              zero := decide (operand = 0)
              negative := operand.toNat.testBit 7 } } },
        none, []⟩ := by
  intro registers operand
  have found := row?_of_mem_table inside member opcode
  rw [step_of_effect (effect_of_load inside found load), loaded_eq]
  rfl

/-- A load through the pointer at `$00FF`, whose second byte is at `$0100`. -/
theorem step_load_pointer :
    let memory := ((holding .flat [0xA1, 0xFA]).memory.setAll 0xFF [0x34, 0x12]).set 0x1234 0x80
    let machine : Machine := { memory, registers := { x := 5 } }
    machine.step none =
      ⟨.exhausted 6,
        { memory, registers := { pc := 0xFFFE, x := 5, a := 0x80, status := { negative := true } } },
        none, []⟩ := by
  intro memory machine
  have whole := step_load machine
    { opcode := 0xA1, operation := .lda, mode := .indirectX, cycles := 6 }
    (by decide) (by decide) (by decide +kernel) rfl
  have operand : AddressingMode.operand memory.value 0xFFFC 5 0 .indirectX = 0x80 := by
    decide +kernel
  exact whole.trans (by rw [operand]; rfl)

/-! ## Calls -/

/-- Where the two modes place the cells of a push. -/
theorem stackCell_eq (machine : Machine) (offset : Int) :
    machine.stackCell offset =
      if machine.stackMode = .flat then machine.registers.sp + offset
      else 0x0100 + (machine.registers.sp + offset) % 256 := by
  cases mode : machine.stackMode <;> simp [stackCell, mode, stackPage, Word.lowByte]

/-- A stack pointer that stays in its page has no need to wrap. -/
theorem wrap_stackCell (machine : Machine) (offset : Int) :
    Word.wrap (machine.stackCell offset) =
      if machine.stackMode = .flat then (machine.registers.sp + offset) % 65536
      else 0x0100 + (machine.registers.sp + offset) % 256 := by
  rw [stackCell_eq, Word.wrap]
  split
  · rfl
  · omega

/-- The two cells of a push are different ones. -/
theorem stackCell_one_ne_zero (machine : Machine) : machine.stackCell 1 ≠ machine.stackCell 0 := by
  rw [stackCell_eq, stackCell_eq]
  split <;> omega

/-- The memory after a call: the two bytes of the return address, low byte first, and otherwise what
was there. -/
theorem value_called (room : machine.HasRoom) :
    let back := Word.wrap (machine.registers.pc + 2)
    machine.called.memory.value (machine.stackCell 0) = back % 256 ∧
      machine.called.memory.value (machine.stackCell 1) = back / 256 ∧
      ∀ address, Addressable address → address ≠ machine.stackCell 0 →
        address ≠ machine.stackCell 1 →
        machine.called.memory.value address = machine.memory.value address := by
  intro back
  obtain ⟨low, high⟩ := addressable_stackCell room
  have nonneg : 0 ≤ back := Word.wrap_nonneg _
  have small : back < 65536 := Word.wrap_lt _
  -- The high byte is written after the low one, into another cell.
  obtain ⟨first, second, others⟩ := machine.memory.value_set_set (.ofInt back) (.ofInt (back / 256))
    low high machine.stackCell_one_ne_zero
  rw [called_memory]
  refine ⟨first.trans ?_, second.trans ?_, others⟩
  · rw [Word.toNat_ofInt, Word.lowByte]
  · rw [Word.toNat_ofInt, Word.lowByte]
    omega

/-- **A call, cell by cell.**  With room for a word on the stack a call takes six cycles and does not
fault.  It goes to the word after its opcode, as that was before the push, and leaves the address of
its last byte in the next two cells of the stack, low byte first; the other cells and registers are
what they were.  The stack may be anywhere, also where the call itself is. -/
theorem step_call (machine : Machine) (inside : Addressable machine.registers.pc)
    (call : machine.memory.get machine.registers.pc.toNat = 0x20) (room : machine.HasRoom) :
    let registers := machine.registers
    let pc := registers.pc
    let sp := registers.sp
    let m := machine.memory.value
    let back := (pc + 2) % 65536
    let low := if machine.stackMode = .flat then sp else 0x0100 + sp % 256
    let high := if machine.stackMode = .flat then sp + 1 else 0x0100 + (sp + 1) % 256
    ∃ memory, machine.step none =
        ⟨.exhausted 6,
          { machine with
            memory
            registers := { registers with
              pc := m ((pc + 1) % 65536) + 256 * m ((pc + 2) % 65536)
              sp := if machine.stackMode = .flat then (sp + 2) % 65536
                else 0x0100 + (sp + 2) % 256 } },
          none, []⟩ ∧
      memory.value low = back % 256 ∧ memory.value high = back / 256 ∧
      ∀ address, Addressable address → address ≠ low → address ≠ high →
        memory.value address = m address := by
  intro registers pc sp m back low high
  have found : machine.row? =
      some { opcode := 0x20, operation := .jsr, mode := .absolute, cycles := 6 } :=
    row?_of_mem_table inside (by decide) call.symm
  have effect : machine.effect = .completed machine.called 6 :=
    effect_of_call inside found rfl room
  have target : Word.wrap (machine.wordAt (pc + 1)) =
      m ((pc + 1) % 65536) + 256 * m ((pc + 2) % 65536) := by
    rw [Word.wrap_of_addressable (machine.addressable_wordAt _), wordAt_succ]
  have first : machine.stackCell 0 = low := by rw [stackCell_eq, Int.add_zero]
  have second : machine.stackCell 1 = high := machine.stackCell_eq 1
  refine ⟨machine.called.memory, ?_, ?_⟩
  · rw [step_of_effect effect, called_eq, target, wrap_stackCell]
  · rw [← first, ← second]
    exact value_called room

/-- A call on a flat stack that begins at its own operand: the return address is written over the
target. -/
theorem step_call_overwritten :
    let machine : Machine :=
      { memory := (holding .flat [0x20, 0x34, 0x12]).memory, registers := { sp := 0xFFFD } }
    ∃ memory, machine.step none =
        ⟨.exhausted 6, { memory, registers := { pc := 0x1234, sp := 0xFFFF } }, none, []⟩ ∧
      memory.value 0xFFFC = 0x20 ∧ memory.value 0xFFFD = 0xFE ∧ memory.value 0xFFFE = 0xFF := by
  intro machine
  have bytes : machine.memory.value 0xFFFC = 0x20 ∧ machine.memory.value 0xFFFD = 0x34 ∧
      machine.memory.value 0xFFFE = 0x12 := by
    decide +kernel
  obtain ⟨memory, whole, low, high, others⟩ :=
    step_call machine (by decide) (by decide +kernel) (by decide)
  have opcode := others 0xFFFC (by decide) (by decide) (by decide)
  refine ⟨memory, whole.trans ?_, opcode.trans bytes.1, low, high⟩
  have target : machine.memory.value ((machine.registers.pc + 1) % 65536) +
      256 * machine.memory.value ((machine.registers.pc + 2) % 65536) = 0x1234 := by
    decide +kernel
  rw [target]
  rfl

end Machine

end Machine6502
