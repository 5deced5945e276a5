import Machine6502.Display
import Machine6502.Run

/-!
# What a bench can be asked

A request names the objects it is about and what is to be done with them.  Requests fall
into four groups by the objects they touch: a memory alone, a budget alone, a processor
with the memory it is bound to, and a processor drawing on a budget.

`MemoryRequest.perform` and `AccessRequest.perform` carry out the requests that need
nothing but the object itself.
-/

namespace Machine6502

/-- An answer to a request. -/
inductive Value where
  | nothing
  | number (value : Int)
  | truth (value : Bool)
  | text (value : String)
  | bytes (values : List UInt8)
  | lines (values : List String)
  | registers (value : Registers)
  /-- Kept registers, and whether they equal the present ones. -/
  | comparison (kept : Registers) (same : Bool)
  deriving DecidableEq

/-- What is asked of a memory alone. -/
inductive MemoryRequest where
  | read (address : Int)
  | write (address value : Int)
  | load (address : Int) (values : List Int)
  | dump (address length : Int)
  /-- The dump as lines of text. -/
  | hexDump (address length : Int)
  | clear
  | size

/-- Carries out a request to a memory. -/
def MemoryRequest.perform (memory : Memory) : MemoryRequest → Except Fault Value × Memory
  | .read address => ((memory.read address).map fun byte => .number byte.toNat, memory)
  | .write address value =>
      match memory.write address value with
      | .ok memory => (.ok .nothing, memory)
      | .error fault => (.error fault, memory)
  | .load address values =>
      match memory.load address values with
      | .ok memory => (.ok .nothing, memory)
      | .error fault => (.error fault, memory)
  | .dump address length => ((memory.dump address length).map .bytes, memory)
  | .hexDump address length =>
      ((memory.dump address length).map fun bytes => .lines (HexDump.lines address bytes), memory)
  | .clear => (.ok .nothing, .blank)
  | .size => (.ok (.number Memory.size), memory)

/-- What is asked of a processor that draws on a budget. -/
inductive AccessRequest where
  | fetchByte
  | fetchWord
  | readByte (address : Int)
  | readWord (address : Int)
  | pushWord (value : Int)
  | effectiveAddress (mode : AddressingMode)
  | readOperand (mode : AddressingMode)

/-- Carries out an access. -/
def AccessRequest.perform : AccessRequest → Access Value
  | .fetchByte => do return .number (← Access.fetchByte).toNat
  | .fetchWord => do return .number (← Access.fetchWord)
  | .readByte address => do return .number (← Access.readByte address).toNat
  | .readWord address => do return .number (← Access.readWord address)
  | .pushWord value => do
      Access.pushWord value
      return .nothing
  | .effectiveAddress mode => do return .number (← Access.effectiveAddress mode)
  | .readOperand mode => do return .number (← Access.readOperand mode).toNat

/-- What is asked of a processor and the memory it is bound to. -/
inductive ProcessorRequest where
  /-- Power-on, after binding the processor to another memory if one is named. -/
  | reset (memory : Option String)
  /-- The name of the memory the processor is bound to. -/
  | boundMemory
  | setRegister (register : Register) (value : Int)
  | getRegister (register : Register)
  | setFlag (flag : Flag) (value : Bool)
  | getFlag (flag : Flag)
  /-- Restores all registers as given, without masking. -/
  | restore (registers : Registers)
  | registers
  | registerLine
  /-- Keeps the registers under a name. -/
  | snapshot (name : String)
  /-- Compares the registers kept under a name with the present ones. -/
  | compare (name : String)
  | flagAccumulator
  | setHook (hook : Option Hook)
  | execute (cycles : Int)
  | step

/-- What is asked of a bench. -/
inductive Request where
  | newMemory (name : String)
  | newProcessor (name memory : String) (stackMode : Option String)
  | newBudget (name : String) (cycles : Int)
  | memory (name : String) (request : MemoryRequest)
  | writeWord (memory budget : String) (address value : Int)
  | charge (budget : String) (cycles : Int)
  | inspect (budget : String)
  | processor (name : String) (request : ProcessorRequest)
  | access (processor budget : String) (request : AccessRequest)

end Machine6502
