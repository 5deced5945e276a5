import Machine6502.Proofs.Effect
import Machine6502.Proofs.Session

/-!
# Blocks are bytes in order

A load, a dump and the writing of a word look up both ends of their block and then handle all of its
cells at once.  What comes of it is what reading or writing the cells one after the other gives, with
the two differences that make a block operation: nothing is written unless all of it is, and a block
that does not fit is reported by one of its ends, not by the first cell that is missing.

* `Memory.writeEach` — values written one after the other.
* `Memory.stored?` — what a list of values puts into the cell at an address.
* `Memory.dump_of_load` — a dump after a load is the dump before it, with what was loaded put in.
* `Bench.perform_of_fails` — a request to a memory that fails leaves the bench as it was.
* `Memory.blocks_bytewise` — the three block operations, cell by cell.
-/

namespace Machine6502

open Memory (Addressable)

namespace Memory

variable {memory after : Memory} {address length : Int} {values : List Int}

/-! ## One cell after the other -/

/-- Stores the low bytes of `values` one after the other, each by a write of its own. -/
def writeEach : (memory : Memory) → (address : Int) → (values : List Int) → Except Fault Memory
  | memory, _, [] => .ok memory
  | memory, address, value :: rest => do
      let next ← memory.write address value
      next.writeEach (address + 1) rest

/-- Where all cells exist, writing them one after the other overwrites them all. -/
theorem writeEach_eq_ok (memory : Memory) (nonneg : 0 ≤ address)
    (fits : address + values.length ≤ 65536) :
    memory.writeEach address values =
      .ok (memory.setAll address.toNat (values.map UInt8.ofInt)) := by
  induction values generalizing memory address with
  | nil => rfl
  | cons value rest ih =>
    rw [List.length_cons] at fits
    have next : (address + 1).toNat = address.toNat + 1 := by omega
    have later := ih (memory.set address.toNat (.ofInt value)) (show 0 ≤ address + 1 by omega)
      (by omega)
    rw [next] at later
    rw [writeEach, memory.write_of_addressable ⟨nonneg, by omega⟩]
    exact later

/-- Where all cells exist, reading them one after the other gives their bytes. -/
theorem mapM_read (memory : Memory) (nonneg : 0 ≤ address) (fits : address + length ≤ 65536) :
    ((List.range length.toNat).mapM fun (offset : Nat) => memory.read (address + offset)) =
      .ok ((List.range length.toNat).map fun offset => memory.get (address.toNat + offset)) := by
  refine Checked.mapM_eq_ok _ fun offset member => ?_
  have below := List.mem_range.mp member
  have cell : (address + offset).toNat = address.toNat + offset := by omega
  rw [memory.read_of_addressable ⟨by omega, by omega⟩, cell]

/-! ## Dumps after loads -/

/-- What a list of values, stored from `start` on, puts into the cell at an address. -/
def stored? (start : Int) (values : List Int) (address : Int) : Option UInt8 :=
  if start ≤ address then values[(address - start).toNat]?.map UInt8.ofInt else none

/-- A cell after a load: what was stored there, and otherwise what it held. -/
theorem get_of_load (loads : memory.load address values = .ok after) {cell : Nat}
    (small : cell < 65536) :
    after.get cell = (stored? address values cell).getD (memory.get cell) := by
  rw [load_eq] at loads
  split at loads
  · next empty =>
    cases loads
    simp [stored?, empty]
  · split at loads
    · next inside =>
      cases loads
      obtain ⟨nonneg, fits⟩ := inside
      rw [get_setAll memory (by rw [List.length_map]; omega) small, stored?]
      by_cases before : address ≤ cell
      · have offset : (cell - address).toNat = cell - address.toNat := by omega
        rw [if_pos (by omega), if_pos before, offset, List.getD_eq_getElem?_getD,
          List.getElem?_map]
      · rw [if_neg (by omega), if_neg before, Option.getD_none]
    · cases loads

/-- **A dump after a load** is the dump before it with the stored bytes put in, however the two blocks
overlap; and where the one fails the other does too. -/
theorem dump_of_load (loads : memory.load address values = .ok after) (first count : Int) :
    after.dump first count = (memory.dump first count).map fun old =>
      old.mapIdx fun offset byte => (stored? address values (first + offset)).getD byte := by
  rw [dump_eq, dump_eq]
  split
  · rfl
  · split
    · next inside =>
      refine congrArg Except.ok (List.ext_getElem (by simp) fun offset small small' => ?_)
      have below : offset < count.toNat := by simpa using small
      have cell : ((first.toNat + offset : Nat) : Int) = first + offset := by omega
      simp only [List.getElem_map, List.getElem_range, List.getElem_mapIdx]
      rw [get_of_load loads (by omega), cell]
    · rfl

end Memory

/-! ## Requests that fail -/

/-- A request to a memory that faults leaves the memory as it was. -/
theorem MemoryRequest.memory_of_error {memory : Memory} {request : MemoryRequest} {fault : Fault}
    (fails : (request.perform memory).1 = .error fault) : (request.perform memory).2 = memory := by
  cases request with
  | read | dump | hexDump | size => rfl
  | clear => cases fails
  | write address value =>
    simp only [perform] at fails ⊢
    cases written : memory.write address value with
    | ok changed => rw [written] at fails; cases fails
    | error fault => rfl
  | load address values =>
    simp only [perform] at fails ⊢
    cases loaded : memory.load address values with
    | ok changed => rw [loaded] at fails; cases fails
    | error fault => rfl

/-- The request is made to a memory. -/
def Request.IsToMemory : Request → Prop
  | .memory _ _ | .writeWord _ _ _ _ => True
  | _ => False

namespace Bench

variable {bench : Bench} {request : Request} {problem : Problem}

/-- Putting a memory back where it is changes nothing. -/
theorem setMemory_memoryAt (bench : Bench) (place : Nat) :
    bench.setMemory place (bench.memoryAt place) = bench := by
  have same : bench.memories.set place (bench.memoryAt place) = bench.memories := by
    by_cases there : place < bench.memories.length
    · rw [memoryAt, List.getD_eq_getElem?_getD, List.getElem?_eq_getElem there, Option.getD_some,
        List.set_getElem_self]
    · exact List.set_eq_of_length_le (Nat.not_lt.mp there)
  rw [setMemory, same]

/-- **A request to a memory is made as a whole or not at all.**  If it fails, no cell, no budget and
no register of the bench has changed. -/
theorem perform_of_fails (toMemory : request.IsToMemory)
    (fails : (bench.perform request).1.result = .error problem) :
    (bench.perform request).2 = bench := by
  cases answers : bench.perform? request with
  | error reason => rw [perform_of_error answers]
  | ok answered =>
    rw [perform_of_ok answers] at fails ⊢
    cases request with
    | memory name request =>
      obtain ⟨place, -, answers⟩ := Checked.bind_eq_ok.mp answers
      cases answers
      obtain ⟨fault, faults, -⟩ := Checked.mapError_eq_error.mp fails
      exact (congrArg _ (request.memory_of_error faults)).trans (bench.setMemory_memoryAt place)
    | writeWord name budgetName address value =>
      obtain ⟨place, -, answers⟩ := Checked.bind_eq_ok.mp answers
      obtain ⟨budget, -, answers⟩ := Checked.bind_eq_ok.mp answers
      cases written : (bench.memoryAt place).writeWord address value budget with
      | error fault => rw [written] at answers; cases answers
      | ok changed => rw [written] at answers; cases answers; cases fails
    | _ => exact toMemory.elim

end Bench

/-! ## The three operations -/

namespace Memory

/-- The second byte of a word, as a number that is shifted down. -/
theorem ofInt_shiftRight (value : Int) :
    UInt8.ofInt (value >>> (8 : Nat)) = .ofInt (value / 256) := by
  rw [Int.shiftRight_eq_div_pow]
  rfl

/-- **Block operations are the bytewise ones, and fail as a whole.**  A load, a dump and the writing of
a word succeed exactly if their block is empty or lies inside the memory.  Then they do what writing
or reading its cells in ascending order does; a word is charged two cycles.  Otherwise they fault with
the first address of the block if that names no cell, and with the last one if it does.  A request of
them that fails changes nothing.

So a dump after a load is the dump before it with the low bytes of the loaded values put in, however
the two blocks overlap. -/
theorem blocks_bytewise (memory : Memory) (address length value : Int) (values : List Int)
    (budget : Budget) :
    let fault (size : Int) : Fault :=
      .addressOutOfRange (if Addressable address then address + size - 1 else address)
    (if values = [] then memory.load address values = .ok memory
      else if address < 0 ∨ 65536 < address + values.length then
        memory.load address values = .error (fault values.length)
      else ∃ after, memory.load address values = .ok after ∧
        memory.writeEach address values = .ok after) ∧
    (if length ≤ 0 then memory.dump address length = .ok []
      else if address < 0 ∨ 65536 < address + length then
        memory.dump address length = .error (fault length)
      else ∃ bytes, memory.dump address length = .ok bytes ∧
        ((List.range length.toNat).mapM fun (offset : Nat) => memory.read (address + offset)) =
          .ok bytes) ∧
    (if ¬ (Addressable address ∧ Addressable (address + 1)) then
        memory.writeWord address value budget = .error (fault 2)
      else ∃ low after, memory.writeWord address value budget = .ok (after, budget.charge 2) ∧
        memory.write address value = .ok low ∧
        low.write (address + 1) (value >>> (8 : Nat)) = .ok after) ∧
    (∀ (bench : Bench) (request : Request) (problem : Problem), request.IsToMemory →
      (bench.perform request).1.result = .error problem → (bench.perform request).2 = bench) ∧
    ∀ after, memory.load address values = .ok after → ∀ first count,
      after.dump first count = (memory.dump first count).map fun old =>
        old.mapIdx fun offset byte => (stored? address values (first + offset)).getD byte := by
  intro fault
  have named (size : Int) : fault size = .addressOutOfRange (reported address size) := by
    simp only [fault, reported, addressable_iff]
  refine ⟨?_, ?_, ?_, fun _ _ _ => Bench.perform_of_fails, fun _ => dump_of_load⟩
  · rw [load_eq]
    split
    · rfl
    · split
      · rw [if_neg (by omega), named]
      · rw [if_pos (by omega)]
        exact ⟨_, rfl, memory.writeEach_eq_ok (by omega) (by omega)⟩
  · rw [dump_eq]
    split
    · rfl
    · split
      · rw [if_neg (by omega), named]
      · rw [if_pos (by omega)]
        exact ⟨_, rfl, memory.mapM_read (by omega) (by omega)⟩
  · rw [writeWord_eq]
    split
    · next outside =>
      rw [addressable_iff, addressable_iff] at outside
      rw [if_neg (by omega), named]
    · next inside =>
      obtain ⟨low, high⟩ := Decidable.not_not.mp inside
      have := low.nonneg
      have := high.small
      rw [if_pos (by omega)]
      refine ⟨_, _, rfl, memory.write_of_addressable low value, ?_⟩
      rw [write_of_addressable _ high, ofInt_shiftRight]

/-- Two values that are no bytes, loaded at the end of the memory, and a load that does not fit. -/
theorem blocks_bytewise_end :
    let memory := blank.setAll 0xFFFC [0x11, 0x22, 0x33, 0x44]
    let request : Request := .memory "m" (.load 0xFFFE [1, 2, 3])
    (∃ after, memory.load 0xFFFE [-1, 300] = .ok after ∧
      after.dump 0xFFFD 3 = .ok [0x22, 0xFF, 0x2C]) ∧
      memory.load 0xFFFE [1, 2, 3] = .error (.addressOutOfRange 0x10000) ∧
      ((Bench.initial .flat 100).perform request).2 = Bench.initial .flat 100 := by
  intro memory request
  obtain ⟨fits, -, -, -, spliced⟩ := blocks_bytewise memory 0xFFFE 0 0 [-1, 300] (.ofRequest 0)
  obtain ⟨beyond, -, -, whole, -⟩ := blocks_bytewise memory 0xFFFE 0 0 [1, 2, 3] (.ofRequest 0)
  obtain ⟨after, loads, -⟩ := fits
  have old : memory.dump 0xFFFD 3 = .ok [0x22, 0x33, 0x44] := by rfl
  have fails : ((Bench.initial .flat 100).perform request).1.result =
      .error (.fault (.addressOutOfRange 0x10000)) := by
    rfl
  refine ⟨⟨after, loads, ?_⟩, beyond, whole _ request _ trivial fails⟩
  rw [spliced after loads, old]
  rfl

end Memory

end Machine6502
