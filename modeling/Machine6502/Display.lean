import Machine6502.Execution
import Machine6502.Hook

/-!
# What is shown of a machine

Three line formats: the register line, the lines of a hex dump, and the line that traces
an instruction.  Numbers are hexadecimal with a `$` in front and leading zeros.
-/

namespace Machine6502

namespace Registers

/-- The flags from the highest bit to the lowest, as their letters; a flag that is clear
shows as a dash. -/
def flagLetters (registers : Registers) : List Char :=
  Flag.all.reverse.map fun flag => if registers.status.get flag then flag.letter else '-'

/-- The registers and flags as one line. -/
def line (registers : Registers) : String :=
  "PC=$" ++ hexText 4 registers.pc ++ " SP=$" ++ hexText 4 registers.sp ++
    " A=$" ++ hexText 2 registers.a ++ " X=$" ++ hexText 2 registers.x ++
    " Y=$" ++ hexText 2 registers.y ++ " P=$" ++ hexText 2 registers.status.toByte ++
    " [" ++ String.ofList registers.flagLetters ++ "]"

end Registers

namespace HexDump

/-- The number of bytes on a full line. -/
def width : Nat := 16

/-- One line: the address of its first byte, then the bytes. -/
def line (address : Int) (bytes : List UInt8) : String :=
  "$" ++ hexText 4 address ++ ": " ++
    " ".intercalate (bytes.map fun byte => String.ofList (hexPair byte))

/-- Bytes from an address on, in lines of sixteen; the last line may be shorter. -/
def lines (address : Int) (bytes : List UInt8) : List String :=
  if bytes = [] then []
  else line address (bytes.take width) :: lines (address + width) (bytes.drop width)
termination_by bytes.length
decreasing_by
  have : 0 < bytes.length := List.length_pos_iff.2 (by assumption)
  simp only [List.length_drop, width]
  omega

end HexDump

/-- The line that traces an instruction: its address, its opcode and, when the opcode is in
the table, its name and mode. -/
def traceLine (pc opcode : Int) : String :=
  "$" ++ hexText 4 pc ++ ": " ++ hexText 2 opcode ++ "  " ++
    match Instruction.ofOpcode? opcode with
    | some row => row.title
    | none => "???"

/-- The line that traces a consultation of the hook. -/
def HookCall.traceLine (call : HookCall) : String :=
  Machine6502.traceLine call.pc call.opcode.toNat

end Machine6502
