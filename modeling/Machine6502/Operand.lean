import Machine6502.Access
import Machine6502.Instruction

/-!
# Operands

How each addressing mode finds its operand.  The modes differ in what wraps where:

* a zero-page index wraps inside the zero page, and adding it costs a cycle;
* an index added to a full address wraps at the end of memory, and costs a cycle only
  when it carries into another page;
* the two bytes of a pointer are at adjacent addresses, and the second never wraps.

Index registers are used as they are, also when they were restored to a value wider
than a byte.
-/

namespace Machine6502

namespace Access

/-- Adds an index to an address, which wraps at the end of memory, and charges a cycle
when the sum lies in another page. -/
def indexed (base index : Int) : Access Int := do
  let address := Word.wrap (base + index)
  charge (Word.crossesPage base address).toNat
  return address

/-- Adds an index to a zero-page address, which wraps inside the zero page, and charges
a cycle. -/
def zeroPageIndexed (zeroPage : UInt8) : Access Int := do
  charge 1
  return Word.lowByte (zeroPage.toNat + (← registers).x)

/-- Consumes the operand bytes of a mode and finds the address they stand for. -/
def effectiveAddress : AddressingMode → Access Int
  | .immediate => throw .noEffectiveAddress
  | .zeroPage => do
    return (← fetchByte).toNat
  | .zeroPageX => do
    zeroPageIndexed (← fetchByte)
  | .absolute => fetchWord
  | .absoluteX => do
    let base ← fetchWord
    indexed base (← registers).x
  | .absoluteY => do
    let base ← fetchWord
    indexed base (← registers).y
  | .indirectX => do
    readWord (← zeroPageIndexed (← fetchByte))
  | .indirectY => do
    let base ← readWord (← fetchByte).toNat
    indexed base (← registers).y

/-- Consumes the operand bytes of a mode and reads the operand. -/
def readOperand : AddressingMode → Access UInt8
  | .immediate => fetchByte
  | mode => do readByte (← effectiveAddress mode)

end Access

end Machine6502
