import Machine6502.Status
import Machine6502.Word

/-!
# The register file

Registers hold integers.  The setters keep the low bits that the register has room for,
eight for `a`, `x` and `y` and sixteen for `pc` and `sp`.  A register file can also be
restored whole, and then it holds whatever it was given until a setter is used; every
operation of the machine is defined on such raw values too.
-/

namespace Machine6502

/-- The contents of the registers.  The defaults are the power-on contents. -/
structure Registers where
  pc : Int := 0xFFFC
  sp : Int := 0x0100
  a : Int := 0
  x : Int := 0
  y : Int := 0
  status : Status := {}
  deriving DecidableEq, Repr, Inhabited

/-- The registers that can be set by name. -/
inductive Register where
  | pc
  | sp
  | a
  | x
  | y
  | status
  deriving DecidableEq, Repr

namespace Registers

/-- Stores the low word into the program counter. -/
def setPc (registers : Registers) (value : Int) : Registers :=
  { registers with pc := Word.wrap value }

/-- Stores the low word into the stack pointer. -/
def setSp (registers : Registers) (value : Int) : Registers :=
  { registers with sp := Word.wrap value }

/-- Stores the low byte into the accumulator. -/
def setA (registers : Registers) (value : Int) : Registers :=
  { registers with a := Word.lowByte value }

/-- Stores the low byte into the first index register. -/
def setX (registers : Registers) (value : Int) : Registers :=
  { registers with x := Word.lowByte value }

/-- Stores the low byte into the second index register. -/
def setY (registers : Registers) (value : Int) : Registers :=
  { registers with y := Word.lowByte value }

/-- Stores the flags of the low byte into the status register, without bit five. -/
def setStatus (registers : Registers) (value : Int) : Registers :=
  { registers with status := { Status.ofByte value with unused := false } }

/-- Gives one flag a value. -/
def setFlag (registers : Registers) (flag : Flag) (value : Bool) : Registers :=
  { registers with status := registers.status.set flag value }

/-- Stores into the register of that name. -/
def set (registers : Registers) : Register → Int → Registers
  | .pc, value => registers.setPc value
  | .sp, value => registers.setSp value
  | .a, value => registers.setA value
  | .x, value => registers.setX value
  | .y, value => registers.setY value
  | .status, value => registers.setStatus value

/-- The contents of the register of that name. -/
def get (registers : Registers) : Register → Int
  | .pc => registers.pc
  | .sp => registers.sp
  | .a => registers.a
  | .x => registers.x
  | .y => registers.y
  | .status => registers.status.toByte

/-- Sets the zero flag and the negative flag from the accumulator, as after a load. -/
def flagAccumulator (registers : Registers) : Registers :=
  { registers with
    status := { registers.status with
      zero := registers.a == 0
      negative := decide (128 ≤ Word.lowByte registers.a) } }

end Registers

end Machine6502
