import Machine6502.Memory
import Machine6502.Registers

/-!
# The machine

A machine is a register file beside a memory, together with the way its stack pointer
maps onto the memory.  Nothing else is kept between two runs.
-/

namespace Machine6502

/-- How the stack pointer maps onto the memory when a word is pushed. -/
inductive StackMode where
  /-- The stack pointer is a full address and grows by the bytes pushed. -/
  | flat
  /-- Pushes stay in the page from `$0100` on; only the low byte of the pointer moves. -/
  | paged
  deriving DecidableEq, Repr

namespace StackMode

/-- Every mode. -/
def all : List StackMode := [.flat, .paged]

/-- The name of a mode. -/
def name : StackMode → String
  | .flat => "flat"
  | .paged => "paged"

/-- The mode of a name. -/
def ofName? (text : String) : Option StackMode :=
  all.find? fun mode => mode.name == text

end StackMode

/-- The first address of the page that paged pushes stay in. -/
def stackPage : Int := 0x0100

/-- A register file and a memory. -/
structure Machine where
  stackMode : StackMode := .flat
  registers : Registers := {}
  memory : Memory := .blank
  deriving DecidableEq

namespace Machine

/-- Power-on: the registers take their default contents and every cell is cleared.
The program counter is set directly, no vector is read. -/
def reset (machine : Machine) : Machine :=
  { machine with registers := {}, memory := .blank }

end Machine

end Machine6502
