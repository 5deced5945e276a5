import Machine6502.Memory
import Mathlib.Algebra.Group.Nat.Defs

/-!
# Reading cells back

A bank is a tree, and a write rebuilds one of its paths.  Seen through `get`, a bank is a
row of cells and a write changes one of them.  This module says so for banks and then for
memories.

* `Bank.get_set_self`, `Bank.get_set_of_ne` — the cell that was written, and the others.
* `Memory.get_set_self`, `Memory.get_set_of_ne` — the same for 65536 cells.
* `Memory.load_eq`, `Memory.dump_eq` — blocks that lie inside the memory, and blocks that do not.
-/

namespace Machine6502

/-- Storing a number keeps its low byte. -/
theorem Word.toNat_ofInt (value : Int) : ((UInt8.ofInt value).toNat : Int) = lowByte value := by
  rw [UInt8.ofInt, UInt8.toNat_ofNat', lowByte]
  omega

namespace Bank

/-- The low `depth + 1` bits are the low `depth` bits and bit `depth`. -/
theorem mod_two_pow_succ (index depth : Nat) :
    index % 2 ^ (depth + 1) = index % 2 ^ depth + if index.testBit depth then 2 ^ depth else 0 := by
  rw [Nat.pow_succ, Nat.mod_mul, Nat.testBit_eq_decide_div_mod_eq]
  rcases Nat.mod_two_eq_zero_or_one (index / 2 ^ depth) with h | h <;> simp [h]

@[simp] theorem get_fill (depth : Nat) (value : UInt8) (index : Nat) :
    (fill depth value).get index = value := by
  induction depth with
  | zero => rfl
  | succ depth ih => simp [fill, get, ih]

@[simp] theorem get_set_self {depth : Nat} (bank : Bank depth) (index : Nat) (value : UInt8) :
    (bank.set index value).get index = value := by
  induction bank with
  | cell => rfl
  | @halves depth lower upper ihLower ihUpper =>
    by_cases h : index.testBit depth = true <;> simp_all [set, get]

/-- A bank of depth `d` looks at the low `d` bits of a cell number. -/
theorem get_set_of_mod_ne {depth : Nat} (bank : Bank depth) {index other : Nat} (value : UInt8)
    (ne : other % 2 ^ depth ≠ index % 2 ^ depth) :
    (bank.set index value).get other = bank.get other := by
  induction bank with
  | cell => simp [Nat.mod_one] at ne
  | @halves depth lower upper ihLower ihUpper =>
    rw [mod_two_pow_succ, mod_two_pow_succ] at ne
    by_cases h : index.testBit depth = true <;> by_cases h' : other.testBit depth = true <;>
      simp_all [set, get]

theorem get_set_of_ne {depth : Nat} (bank : Bank depth) {index other : Nat} (value : UInt8)
    (small : index < 2 ^ depth) (small' : other < 2 ^ depth) (ne : other ≠ index) :
    (bank.set index value).get other = bank.get other := by
  apply bank.get_set_of_mod_ne value
  rwa [Nat.mod_eq_of_lt small, Nat.mod_eq_of_lt small']

end Bank

namespace Memory

@[simp] theorem get_blank (cell : Nat) : blank.get cell = 0 := by
  simp [blank, get]

@[simp] theorem get_set_self (memory : Memory) (cell : Nat) (value : UInt8) :
    (memory.set cell value).get cell = value := by
  simp [get, set]

theorem get_set_of_ne (memory : Memory) {cell other : Nat} (value : UInt8)
    (small : cell < size) (small' : other < size) (ne : other ≠ cell) :
    (memory.set cell value).get other = memory.get other :=
  memory.cells.get_set_of_ne value small small' ne

/-! ## Blocks -/

/-- Consecutive cells that were overwritten hold the new bytes, and the others what they held. -/
theorem get_setAll (memory : Memory) {start cell : Nat} {bytes : List UInt8}
    (fits : start + bytes.length ≤ 65536) (small : cell < 65536) :
    (memory.setAll start bytes).get cell =
      if start ≤ cell then bytes.getD (cell - start) (memory.get cell) else memory.get cell := by
  induction bytes generalizing memory start with
  | nil => simp [setAll, Bank.setAll]
  | cons first rest ih =>
    rw [List.length_cons] at fits
    have inside : start < size := show start < 65536 by omega
    have later := ih (memory.set start first) (show start + 1 + rest.length ≤ 65536 by omega)
    have whole : (memory.setAll start (first :: rest)).get cell = _ := later
    rw [whole]
    obtain before | rfl | after := Nat.lt_trichotomy cell start
    · rw [if_neg (by omega), if_neg (by omega)]
      exact memory.get_set_of_ne first inside small (by omega)
    · rw [if_neg (by omega), if_pos (Nat.le_refl _), Nat.sub_self, List.getD_cons_zero]
      exact memory.get_set_self cell first
    · have same : (memory.set start first).get cell = memory.get cell :=
        memory.get_set_of_ne first inside small (by omega)
      have next : cell - start = cell - (start + 1) + 1 := by omega
      rw [if_pos (by omega), if_pos (by omega), same, next, List.getD_cons_succ]

/-- Reading a byte as a number and storing the low byte of the number gives the byte back. -/
theorem map_ofInt_toNat (bytes : List UInt8) :
    (bytes.map fun byte => (byte.toNat : Int)).map UInt8.ofInt = bytes := by
  rw [List.map_map]
  refine List.map_id'' (fun byte => ?_) bytes
  apply UInt8.toNat_inj.mp
  have := byte.toNat_lt
  show (UInt8.ofNat (byte.toNat % 256 : Int).toNat).toNat = byte.toNat
  rw [UInt8.toNat_ofNat']
  omega

/-- The address that is reported of a block which does not lie inside the memory: the first one if
that names no cell, and otherwise the last one. -/
def reported (address length : Int) : Int :=
  if 0 ≤ address ∧ address < 65536 then address + length - 1 else address

/-- Both ends of a block are looked up before anything is done with it. -/
theorem bind_ends {α : Type} {address length : Int} (pos : 0 < length)
    (rest : Nat → Nat → Except Fault α) :
    (do
      let first ← cellOf address
      let last ← cellOf (address + length - 1)
      rest first last) =
      if 0 ≤ address ∧ address + length ≤ 65536 then
        rest address.toNat (address + length - 1).toNat
      else .error (.addressOutOfRange (reported address length)) := by
  by_cases first : 0 ≤ address ∧ address < 65536
  · rw [cellOf_of_inRange first.1 first.2, reported, if_pos first]
    by_cases last : address + length ≤ 65536
    · rw [cellOf_of_inRange (by omega) (by omega), if_pos ⟨first.1, last⟩]
      rfl
    · rw [cellOf_of_outOfRange (by omega), if_neg (by omega)]
      rfl
  · rw [cellOf_of_outOfRange (by omega), reported, if_neg first, if_neg (by omega)]
    rfl

/-- A word is written if both of its cells are cells of the memory. -/
theorem writeWord_eq (memory : Memory) (address value : Int) (budget : Budget) :
    memory.writeWord address value budget =
      if 0 ≤ address ∧ address + 2 ≤ 65536 then
        .ok ((memory.set address.toNat (.ofInt value)).set (address + 1).toNat
          (.ofInt (value / 256)), budget.charge 2)
      else .error (.addressOutOfRange (reported address 2)) := by
  have last : address + 1 = address + 2 - 1 := by omega
  rw [writeWord, last]
  exact bind_ends (by decide) fun low high =>
    .ok ((memory.set low (.ofInt value)).set high (.ofInt (value / 256)), budget.charge 2)

/-- A block is loaded if it is empty or lies inside the memory. -/
theorem load_eq (memory : Memory) (address : Int) (values : List Int) :
    memory.load address values =
      if values = [] then .ok memory
      else if 0 ≤ address ∧ address + values.length ≤ 65536 then
        .ok (memory.setAll address.toNat (values.map UInt8.ofInt))
      else .error (.addressOutOfRange (reported address values.length)) := by
  cases values with
  | nil => rfl
  | cons value rest => exact bind_ends (by simp only [List.length_cons]; omega) fun first _ => _

/-- A block is dumped if it is empty or lies inside the memory. -/
theorem dump_eq (memory : Memory) (address length : Int) :
    memory.dump address length =
      if length ≤ 0 then .ok []
      else if 0 ≤ address ∧ address + length ≤ 65536 then
        .ok ((List.range length.toNat).map fun offset => memory.get (address.toNat + offset))
      else .error (.addressOutOfRange (reported address length)) := by
  rw [dump]
  split
  · rfl
  · exact bind_ends (by omega) fun first _ => _

/-- A block that lies inside the memory can be loaded. -/
theorem load_eq_ok (memory : Memory) {address : Nat} {bytes : List UInt8}
    (fits : address + bytes.length ≤ 65536) :
    memory.load address (bytes.map fun byte => (byte.toNat : Int)) =
      .ok (memory.setAll address bytes) := by
  rw [load_eq, map_ofInt_toNat, List.length_map]
  split
  · next empty =>
    rw [List.map_eq_nil_iff.mp empty]
    rfl
  · rw [if_pos (by omega), Int.toNat_natCast]

/-- A block that begins inside the memory and ends outside cannot be loaded. -/
theorem load_eq_error (memory : Memory) {address : Nat} {bytes : List UInt8}
    (inside : address < 65536) (beyond : 65536 < address + bytes.length) :
    memory.load address (bytes.map fun byte => (byte.toNat : Int)) =
      .error (.addressOutOfRange (address + bytes.length - 1)) := by
  have nonempty : bytes ≠ [] := by
    rintro rfl
    rw [List.length_nil] at beyond
    omega
  rw [load_eq, if_neg (mt List.map_eq_nil_iff.mp nonempty), List.length_map, if_neg (by omega),
    reported, if_pos (by omega)]

/-- Consecutive cells. -/
def block (memory : Memory) (start count : Nat) : List UInt8 :=
  (List.range count).map fun offset => memory.get (start + offset)

theorem length_block (memory : Memory) (start count : Nat) :
    (memory.block start count).length = count := by
  rw [block, List.length_map, List.length_range]

/-- A block inside the memory can be dumped. -/
theorem dump_eq_ok (memory : Memory) {start count : Nat} (inside : start + count ≤ 65536) :
    memory.dump start count = .ok (memory.block start count) := by
  rw [dump_eq]
  split
  · next empty =>
    obtain rfl : count = 0 := by omega
    rfl
  · rw [if_pos (by omega), Int.toNat_natCast, Int.toNat_natCast, block]

end Memory

end Machine6502
