import Machine6502.Text.Digits

/-!
# The instruction set

One table row per opcode: what the instruction does, where it finds its operand, how
many cycles it takes and whether it takes one more when an index carries into the next
page.  An opcode without a row is not part of the instruction set.

The cycle counts of the table are a description.  A run is charged for its accesses one
by one (`Machine6502.Access`) and never looks a count up.
-/

namespace Machine6502

/-- Where an instruction finds its operand. -/
inductive AddressingMode where
  | immediate
  | zeroPage
  | zeroPageX
  | absolute
  | absoluteX
  | absoluteY
  | indirectX
  | indirectY
  deriving DecidableEq, Repr

namespace AddressingMode

/-- Every mode, in the order in which they are numbered. -/
def all : List AddressingMode :=
  [.immediate, .zeroPage, .zeroPageX, .absolute, .absoluteX, .absoluteY, .indirectX, .indirectY]

/-- The number of a mode, from one on. -/
def ordinal : AddressingMode → Nat
  | .immediate => 1
  | .zeroPage => 2
  | .zeroPageX => 3
  | .absolute => 4
  | .absoluteX => 5
  | .absoluteY => 6
  | .indirectX => 7
  | .indirectY => 8

/-- The name by which a mode is shown. -/
def text : AddressingMode → String
  | .immediate => "immediate"
  | .zeroPage => "zero page"
  | .zeroPageX => "zero page,X"
  | .absolute => "absolute"
  | .absoluteX => "absolute,X"
  | .absoluteY => "absolute,Y"
  | .indirectX => "(indirect,X)"
  | .indirectY => "(indirect),Y"

/-- The number of operand bytes that follow the opcode. -/
def operandSize : AddressingMode → Nat
  | .absolute | .absoluteX | .absoluteY => 2
  | .immediate | .zeroPage | .zeroPageX | .indirectX | .indirectY => 1

end AddressingMode

/-- What an instruction does. -/
inductive Operation where
  /-- Load the accumulator. -/
  | lda
  /-- Jump to a subroutine. -/
  | jsr
  deriving DecidableEq, Repr

/-- The mnemonic of an operation. -/
def Operation.mnemonic : Operation → String
  | .lda => "LDA"
  | .jsr => "JSR"

/-- A row of the instruction table. -/
structure Instruction where
  opcode : UInt8
  operation : Operation
  mode : AddressingMode
  /-- Cycles without the page penalty. -/
  cycles : Nat
  /-- An index that carries into the next page costs one more cycle. -/
  pagePenalty : Bool := false
  deriving DecidableEq

namespace Instruction

/-- The instruction table. -/
def table : List Instruction :=
  [ { opcode := 0xA9, operation := .lda, mode := .immediate, cycles := 2 },
    { opcode := 0xA5, operation := .lda, mode := .zeroPage, cycles := 3 },
    { opcode := 0xB5, operation := .lda, mode := .zeroPageX, cycles := 4 },
    { opcode := 0xAD, operation := .lda, mode := .absolute, cycles := 4 },
    { opcode := 0xBD, operation := .lda, mode := .absoluteX, cycles := 4, pagePenalty := true },
    { opcode := 0xB9, operation := .lda, mode := .absoluteY, cycles := 4, pagePenalty := true },
    { opcode := 0xA1, operation := .lda, mode := .indirectX, cycles := 6 },
    { opcode := 0xB1, operation := .lda, mode := .indirectY, cycles := 5, pagePenalty := true },
    { opcode := 0x20, operation := .jsr, mode := .absolute, cycles := 6 } ]

/-- The row of an opcode.  Integers that are no byte have none. -/
def ofOpcode? (opcode : Int) : Option Instruction :=
  table.find? fun row => (row.opcode.toNat : Int) == opcode

/-- The bytes an instruction occupies, opcode included. -/
def size (row : Instruction) : Nat := 1 + row.mode.operandSize

/-- The mnemonic and the name of the mode. -/
def title (row : Instruction) : String :=
  row.operation.mnemonic ++ " " ++ row.mode.text

/-- A row as one line of text. -/
def summary (row : Instruction) : String :=
  "InstructionInfo(opcode=$" ++ hexText 2 row.opcode.toNat ++ ", " ++ row.title ++
    ", cycles=" ++ toString row.cycles ++ ")"

/-- A row found for an opcode has that opcode. -/
theorem opcode_of_ofOpcode? {opcode : Int} {row : Instruction} (found : ofOpcode? opcode = some row) :
    (row.opcode.toNat : Int) = opcode := by
  simpa using List.find?_some found

/-- A row found for an opcode is a row of the table. -/
theorem mem_table_of_ofOpcode? {opcode : Int} {row : Instruction}
    (found : ofOpcode? opcode = some row) : row ∈ table :=
  List.mem_of_find?_eq_some found

end Instruction

end Machine6502
