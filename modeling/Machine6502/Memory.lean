import Machine6502.Bank
import Machine6502.Budget
import Machine6502.Fault
import Machine6502.Word

/-!
# The address space

A memory has 65536 byte cells and nothing else: no mapped devices, no protected and no
switched regions.  An address is any integer; one that names no cell is a fault and
never wraps.

Block operations check the two ends of a block before they touch a cell, so they either
do all of their work or none.

## Main definitions

* `Memory.cellOf` — the cell an address names.
* `Memory.read`, `Memory.write`, `Memory.writeWord` — one cell, and two adjacent cells.
* `Memory.load`, `Memory.dump` — blocks.
* `Memory.changes` — where two memories differ.
-/

namespace Machine6502

/-- 65536 byte cells. -/
structure Memory where
  cells : Bank 16
  deriving DecidableEq

namespace Memory

/-- The number of cells. -/
def size : Nat := 65536

/-- Every cell holds zero. -/
def blank : Memory := ⟨.fill 16 0⟩

instance : Inhabited Memory := ⟨blank⟩

/-- The byte in a cell. -/
def get (memory : Memory) (cell : Nat) : UInt8 := memory.cells.get cell

/-- The memory with one cell overwritten. -/
def set (memory : Memory) (cell : Nat) (value : UInt8) : Memory :=
  ⟨memory.cells.set cell value⟩

/-- The memory with consecutive cells overwritten. -/
def setAll (memory : Memory) (cell : Nat) (values : List UInt8) : Memory :=
  ⟨memory.cells.setAll cell values⟩

/-- The cell an address names. -/
def cellOf (address : Int) : Except Fault Nat :=
  if 0 ≤ address ∧ address < size then .ok address.toNat
  else .error (.addressOutOfRange address)

/-- The byte at an address. -/
def read (memory : Memory) (address : Int) : Except Fault UInt8 := do
  let cell ← cellOf address
  return memory.get cell

/-- Stores the low byte of `value` at an address. -/
def write (memory : Memory) (address value : Int) : Except Fault Memory := do
  let cell ← cellOf address
  return memory.set cell (.ofInt value)

/-- Stores the low word of `value` at an address and the one after it, low byte first,
and charges two cycles.  Both addresses are checked before a cell is written. -/
def writeWord (memory : Memory) (address value : Int) (budget : Budget) :
    Except Fault (Memory × Budget) := do
  let low ← cellOf address
  let high ← cellOf (address + 1)
  return ((memory.set low (.ofInt value)).set high (.ofInt (value / 256)), budget.charge 2)

/-- Stores the low bytes of `values` from an address on.  Storing nothing is possible
anywhere; otherwise the first and the last address are checked, in this order, before
a cell is written. -/
def load (memory : Memory) (address : Int) (values : List Int) : Except Fault Memory :=
  if values.isEmpty then .ok memory
  else do
    let first ← cellOf address
    let _ ← cellOf (address + values.length - 1)
    return memory.setAll first (values.map UInt8.ofInt)

/-- The `length` bytes from an address on.  A length that is not positive gives none,
anywhere; otherwise the first and the last address are checked, in this order. -/
def dump (memory : Memory) (address length : Int) : Except Fault (List UInt8) :=
  if length ≤ 0 then .ok []
  else do
    let first ← cellOf address
    let _ ← cellOf (address + length - 1)
    return (List.range length.toNat).map fun offset => memory.get (first + offset)

/-- The cells in which `after` differs from `before`, with their new bytes, ascending. -/
def changes (before after : Memory) : List (Nat × UInt8) :=
  before.cells.changes after.cells 0 []

theorem cellOf_of_inRange {address : Int} (nonneg : 0 ≤ address) (small : address < 65536) :
    cellOf address = .ok address.toNat :=
  if_pos ⟨nonneg, small⟩

theorem cellOf_of_outOfRange {address : Int} (out : address < 0 ∨ 65536 ≤ address) :
    cellOf address = .error (.addressOutOfRange address) :=
  if_neg (by simp only [size]; omega)

end Memory

end Machine6502
