import Machine6502.Operand

/-!
# One instruction

An instruction is fetched, looked up in the table and performed.  An opcode without a row
faults after the opcode itself was fetched and before any operand byte is.

`spends_instruction` says that an instruction that completes has charged two cycles or
more; this is why a run on a budget ends, whatever the program does.
-/

namespace Machine6502

namespace Access

/-- Performs an operation on the operand that its mode finds. -/
def perform : Operation → AddressingMode → Access Unit
  | .lda, mode => do
    let value ← readOperand mode
    adjust fun registers => (registers.setA value.toNat).flagAccumulator
  | .jsr, _ => do
    let target ← fetchWord
    pushWord (Word.wrap ((← registers).pc - 1))
    adjust fun registers => registers.setPc target
    charge 1

/-- Fetches and performs the instruction at the program counter. -/
def instruction : Access Unit := do
  let address := (← registers).pc
  let opcode ← fetchByte
  match Instruction.ofOpcode? opcode.toNat with
  | none => throw (.unhandledOpcode opcode.toNat (some address))
  | some row => perform row.operation row.mode

theorem spends_indexed (base index : Int) : Spends 0 (indexed base index) := by
  exact ((spends_charge _).bind fun _ => spends_pure _).mono (by omega)

theorem spends_zeroPageIndexed (zeroPage : UInt8) : Spends 1 (zeroPageIndexed zeroPage) :=
  (spends_charge 1).bind fun _ => spends_registers.bind fun _ => spends_pure _

/-- Every mode that has an address fetches a byte to find it. -/
theorem spends_effectiveAddress (mode : AddressingMode) : Spends 1 (effectiveAddress mode) := by
  cases mode
  · exact spends_throw _ _
  · exact spends_fetchByte.bind fun _ => spends_pure _
  · exact (spends_fetchByte.bind fun _ => spends_zeroPageIndexed _).mono (by omega)
  · exact spends_fetchWord.mono (by omega)
  · exact (spends_fetchWord.bind fun _ => spends_registers.bind fun _ =>
      spends_indexed _ _).mono (by omega)
  · exact (spends_fetchWord.bind fun _ => spends_registers.bind fun _ =>
      spends_indexed _ _).mono (by omega)
  · exact (spends_fetchByte.bind fun _ => (spends_zeroPageIndexed _).bind fun _ =>
      spends_readWord _).mono (by omega)
  · exact (spends_fetchByte.bind fun _ => (spends_readWord _).bind fun _ =>
      spends_registers.bind fun _ => spends_indexed _ _).mono (by omega)

theorem spends_readOperand (mode : AddressingMode) : Spends 1 (readOperand mode) := by
  cases mode
  · exact spends_fetchByte
  all_goals
    exact ((spends_effectiveAddress _).bind fun _ => spends_readByte _).mono (by omega)

theorem spends_pushWord (value : Int) : Spends 0 (pushWord value) := by
  change Spends (0 + 0) (get >>= _)
  refine spends_get.bind fun state => ?_
  cases state.stackMode
  · exact spends_registers.bind fun _ => (spends_storeWord _ _).bind fun _ => spends_adjust _
  · exact (spends_registers.bind fun _ => (spends_poke _ _).bind fun _ =>
      (spends_poke _ _).bind fun _ => (spends_charge 2).bind fun _ =>
        spends_adjust _).mono (by omega)

theorem spends_perform (operation : Operation) (mode : AddressingMode) :
    Spends 1 (perform operation mode) := by
  cases operation
  · exact (spends_readOperand mode).bind fun _ => spends_adjust _
  · exact (spends_fetchWord.bind fun _ => spends_registers.bind fun _ =>
      (spends_pushWord _).bind fun _ => (spends_adjust _).bind fun _ =>
        spends_charge 1).mono (by omega)

/-- **A completed instruction takes two cycles or more.** -/
theorem spends_instruction : Spends 2 instruction := by
  change Spends (0 + (1 + 1)) (registers >>= _)
  refine spends_registers.bind fun _ => spends_fetchByte.bind fun opcode => ?_
  cases Instruction.ofOpcode? opcode.toNat with
  | none => exact spends_throw _ _
  | some row => exact spends_perform _ _

end Access

end Machine6502
