/-!
# The status register

Eight bits, seven of which are flags.  Bit five has no meaning; it is kept when the whole
register is restored and dropped when a byte is stored into it, so it is a field like
the others.

`Status.toByte` and `Status.ofByte` are the byte view, and `ofByte_toByte` says that the
byte view loses nothing.
-/

namespace Machine6502

/-- The flags of the status register. -/
inductive Flag where
  | carry
  | zero
  | interruptDisable
  | decimal
  | breakCommand
  | overflow
  | negative
  deriving DecidableEq, Repr

namespace Flag

/-- Every flag, from the lowest bit to the highest. -/
def all : List Flag :=
  [.carry, .zero, .interruptDisable, .decimal, .breakCommand, .overflow, .negative]

/-- The bit of the status byte that a flag occupies. -/
def bit : Flag → Nat
  | .carry => 0
  | .zero => 1
  | .interruptDisable => 2
  | .decimal => 3
  | .breakCommand => 4
  | .overflow => 6
  | .negative => 7

/-- The status byte in which a flag alone is set. -/
def mask (flag : Flag) : Nat := 1 <<< flag.bit

/-- The letter by which a flag is shown. -/
def letter : Flag → Char
  | .carry => 'C'
  | .zero => 'Z'
  | .interruptDisable => 'I'
  | .decimal => 'D'
  | .breakCommand => 'B'
  | .overflow => 'V'
  | .negative => 'N'

end Flag

/-- The contents of the status register. -/
structure Status where
  carry : Bool := false
  zero : Bool := false
  interruptDisable : Bool := false
  decimal : Bool := false
  breakCommand : Bool := false
  unused : Bool := false
  overflow : Bool := false
  negative : Bool := false
  deriving DecidableEq, Repr, Inhabited

namespace Status

/-- The status with the bits of the low byte of `value`. -/
def ofByte (value : Int) : Status :=
  let byte := (value % 256).toNat
  { carry := byte.testBit 0
    zero := byte.testBit 1
    interruptDisable := byte.testBit 2
    decimal := byte.testBit 3
    breakCommand := byte.testBit 4
    unused := byte.testBit 5
    overflow := byte.testBit 6
    negative := byte.testBit 7 }

/-- The status as a byte. -/
def toByte (status : Status) : Nat :=
  status.carry.toNat + 2 * status.zero.toNat + 4 * status.interruptDisable.toNat +
    8 * status.decimal.toNat + 16 * status.breakCommand.toNat + 32 * status.unused.toNat +
    64 * status.overflow.toNat + 128 * status.negative.toNat

/-- The value of a flag. -/
def get (status : Status) : Flag → Bool
  | .carry => status.carry
  | .zero => status.zero
  | .interruptDisable => status.interruptDisable
  | .decimal => status.decimal
  | .breakCommand => status.breakCommand
  | .overflow => status.overflow
  | .negative => status.negative

/-- The status with one flag given a value. -/
def set (status : Status) (flag : Flag) (value : Bool) : Status :=
  match flag with
  | .carry => { status with carry := value }
  | .zero => { status with zero := value }
  | .interruptDisable => { status with interruptDisable := value }
  | .decimal => { status with decimal := value }
  | .breakCommand => { status with breakCommand := value }
  | .overflow => { status with overflow := value }
  | .negative => { status with negative := value }

theorem toByte_lt (status : Status) : status.toByte < 256 := by
  have := status.carry.toNat_le
  have := status.zero.toNat_le
  have := status.interruptDisable.toNat_le
  have := status.decimal.toNat_le
  have := status.breakCommand.toNat_le
  have := status.unused.toNat_le
  have := status.overflow.toNat_le
  have := status.negative.toNat_le
  unfold toByte
  omega

/-- The byte view loses nothing. -/
@[simp] theorem ofByte_toByte (status : Status) : ofByte status.toByte = status := by
  rcases status with ⟨c, z, i, d, b, u, v, n⟩
  cases c <;> cases z <;> cases i <;> cases d <;> cases b <;> cases u <;> cases v <;> cases n <;>
    rfl

/-- A flag is the bit of the status byte that it occupies. -/
theorem testBit_toByte (status : Status) (flag : Flag) :
    status.toByte.testBit flag.bit = status.get flag := by
  have byte : ((status.toByte : Int) % 256).toNat = status.toByte := by
    have := status.toByte_lt
    omega
  conv => rhs; rw [← ofByte_toByte status]
  cases flag <;> simp only [ofByte, byte, get, Flag.bit]

/-- A status is its flags and the bit that is none of them. -/
theorem eq_of_get_eq {status other : Status} (flags : ∀ flag, status.get flag = other.get flag)
    (unused : status.unused = other.unused) : status = other := by
  cases status
  cases other
  rw [mk.injEq]
  exact ⟨flags .carry, flags .zero, flags .interruptDisable, flags .decimal, flags .breakCommand,
    unused, flags .overflow, flags .negative⟩

end Status

end Machine6502
