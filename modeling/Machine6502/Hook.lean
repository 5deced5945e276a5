import Machine6502.Memory
import Machine6502.Registers

/-!
# Instruction hooks

A hook is consulted before every instruction of a run, with the program counter and the
opcode found there.  It may stop the run before the instruction, and otherwise may write
memory cells and move the program counter first; the run then goes on with whatever the
hook left behind.

A hook is data.  It lists the addresses and opcodes it stops at, how many instructions it
lets pass, and the cells and targets it changes at given addresses.  The default hook
lists nothing: it lets every instruction pass untouched and only observes.
-/

namespace Machine6502

/-- One consultation: the program counter and the opcode the hook was shown. -/
structure HookCall where
  pc : Int
  opcode : UInt8
  deriving DecidableEq, Repr

/-- A cell written whenever the program counter is at `site`. -/
structure Poke where
  site : Int
  address : Int
  value : Int
  deriving DecidableEq, Repr

/-- A target the program counter is moved to whenever it is at `site`. -/
structure Jump where
  site : Int
  target : Int
  deriving DecidableEq, Repr

/-- What is consulted before every instruction. -/
structure Hook where
  /-- Program counters at which the run is stopped. -/
  stopAddresses : List Int := []
  /-- Opcodes at which the run is stopped. -/
  stopOpcodes : List Int := []
  /-- The number of instructions let pass, when there is a limit. -/
  limit : Option Int := none
  pokes : List Poke := []
  jumps : List Jump := []
  /-- The number of instructions let pass so far. -/
  passed : Nat := 0
  deriving DecidableEq, Repr

namespace Hook

/-- The hook stops the run before this instruction. -/
def stops (hook : Hook) (call : HookCall) : Bool :=
  hook.stopAddresses.contains call.pc || hook.stopOpcodes.contains call.opcode.toNat ||
    hook.limit.any fun (limit : Int) => decide (limit ≤ (hook.passed : Int))

/-- The hook after it has let an instruction pass. -/
def pass (hook : Hook) : Hook := { hook with passed := hook.passed + 1 }

/-- Writes the pokes of one site, in order.  A poke that names no cell ends the writing,
and the earlier ones stay. -/
def pokeAll (memory : Memory) : List Poke → Except Fault Unit × Memory
  | [] => (.ok (), memory)
  | poke :: rest =>
      match memory.write poke.address poke.value with
      | .ok memory => pokeAll memory rest
      | .error fault => (.error fault, memory)

/-- The memory after the pokes for a program counter. -/
def pokeAt (hook : Hook) (pc : Int) (memory : Memory) : Except Fault Unit × Memory :=
  pokeAll memory (hook.pokes.filter fun poke => poke.site == pc)

/-- The registers after the jumps for a program counter; the last one listed decides. -/
def jumpAt (hook : Hook) (pc : Int) (registers : Registers) : Registers :=
  (hook.jumps.filter fun jump => jump.site == pc).foldl
    (fun registers jump => registers.setPc jump.target) registers

end Hook

end Machine6502
