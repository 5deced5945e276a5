import Machine6502.Text.Digits

/-!
# Faults of the machine

The three causes for which a machine operation stops.  A fault names the address and
the opcode it is about; `Fault.message` is the only place where its wording stands.

Faults are values: an operation that faults returns the fault together with the state
it had reached, so what was changed before the fault stays changed.
-/

namespace Machine6502

/-- Why an operation of the machine stopped. -/
inductive Fault where
  /-- An access named a cell outside the 65536 cells of the memory. -/
  | addressOutOfRange (address : Int)
  /-- The fetched opcode is in no row of the instruction table. -/
  | unhandledOpcode (opcode : Int) (address : Option Int)
  /-- Immediate operands have no address. -/
  | noEffectiveAddress
  deriving DecidableEq, Repr

namespace Fault

/-- The description of a fault, without the address it is about. -/
def description : Fault → String
  | .addressOutOfRange address =>
      "address $" ++ hexText 1 address ++ " out of range (valid: $0000-$FFFF)"
  | .unhandledOpcode opcode _ => "instruction not handled: opcode $" ++ hexText 2 opcode
  | .noEffectiveAddress => "no effective address for immediate mode"

/-- The address a fault is about, when there is one. -/
def address? : Fault → Option Int
  | .addressOutOfRange address => some address
  | .unhandledOpcode _ address => address
  | .noEffectiveAddress => none

/-- A description with the address it is about in front. -/
def located (address : Option Int) (description : String) : String :=
  match address with
  | some address => "$" ++ hexText 4 address ++ ": " ++ description
  | none => description

/-- The full text of a fault.  A range fault already names its address, so only an
unhandled opcode is located. -/
def message : Fault → String
  | .addressOutOfRange address => (Fault.addressOutOfRange address).description
  | .unhandledOpcode opcode address =>
      located address (Fault.unhandledOpcode opcode address).description
  | .noEffectiveAddress => Fault.noEffectiveAddress.description

end Fault

end Machine6502
