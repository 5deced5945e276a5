/-!
# Bytes and words of an integer

Every register setter, address computation and memory write accepts an integer of
any size and sign and keeps its low bits.  Keeping the low `k` bits of the infinite
two's complement pattern of `v` is the same as taking the Euclidean remainder of `v`
by `2 ^ k`, so the whole library computes on `Int` with `%` and `/`, and negative
values need no case of their own.
-/

namespace Machine6502

namespace Word

/-- The low eight bits. -/
def lowByte (value : Int) : Int := value % 256

/-- Bits eight to fifteen. -/
def highByte (value : Int) : Int := value / 256 % 256

/-- The low sixteen bits. -/
def wrap (value : Int) : Int := value % 65536

/-- The word stored as `low`, `high`, low byte first. -/
def ofBytes (low high : UInt8) : Int := low.toNat + 256 * high.toNat

/-- Two addresses lie in different pages of 256 cells.  Only bits eight to fifteen
name a page, so addresses a multiple of 65536 apart share theirs. -/
def crossesPage (base effective : Int) : Bool := highByte base != highByte effective

theorem lowByte_nonneg (value : Int) : 0 ≤ lowByte value := by
  unfold lowByte; omega

theorem lowByte_lt (value : Int) : lowByte value < 256 := by
  unfold lowByte; omega

theorem wrap_nonneg (value : Int) : 0 ≤ wrap value := by
  unfold wrap; omega

theorem wrap_lt (value : Int) : wrap value < 65536 := by
  unfold wrap; omega

/-- A value that already fits is kept. -/
theorem lowByte_eq_self {value : Int} (nonneg : 0 ≤ value) (small : value < 256) :
    lowByte value = value := by
  unfold lowByte; omega

/-- A value that already fits is kept. -/
theorem wrap_eq_self {value : Int} (nonneg : 0 ≤ value) (small : value < 65536) :
    wrap value = value := by
  unfold wrap; omega

@[simp] theorem wrap_wrap (value : Int) : wrap (wrap value) = wrap value := by
  unfold wrap; omega

theorem ofBytes_nonneg (low high : UInt8) : 0 ≤ ofBytes low high := by
  unfold ofBytes; omega

theorem ofBytes_lt (low high : UInt8) : ofBytes low high < 65536 := by
  have := low.toNat_lt
  have := high.toNat_lt
  unfold ofBytes; omega

end Word

end Machine6502
