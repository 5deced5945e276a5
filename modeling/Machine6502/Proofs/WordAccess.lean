import Machine6502.Proofs.SingleStep

/-!
# Words are two bytes

A word is fetched, read and written, and each of the three has its own rule for the second byte.  A
fetch follows the program counter, which is wrapped between the bytes, and is charged for both at once.
A read looks at the next address, which is not wrapped, and is charged byte by byte.  A write looks at
both addresses before it stores a byte.

The rules differ only where the second byte does not exist, and there they decide what has been charged
by the time of the fault.  A word that was written has both of its cells, so reads and fetches agree on
it.

* `Access.fetchWord_eq`, `Access.readWord_eq` — every outcome of a fetch and of a read.
* `Access.fetchWord_eq_fetchByte` — a fetched word is two fetched bytes, faults and charges included.
* `Memory.value_of_writeWord` — the cells after a word was written.
* `Access.words_bytewise` — the three accesses, and when each of them faults.
-/

namespace Machine6502

open Memory (Addressable)

namespace Access

variable {machine : Machine} {budget : Budget} {address : Int}

/-! ## Fetches -/

/-- What a fetch of a word comes to, wherever the program counter is. -/
theorem fetchWord_eq (machine : Machine) (budget : Budget) :
    fetchWord ⟨machine, budget⟩ =
      if Addressable machine.registers.pc then
        .ok (machine.wordAt machine.registers.pc) ⟨machine.skip 2, budget.charge 2⟩
      else .error (.addressOutOfRange machine.registers.pc) ⟨machine, budget⟩ := by
  split
  · next inside => exact fetchWord_of_addressable inside
  · next outside => rw [fetchWord, bind_of_error (next_of_not_addressable outside)]

/-- **A fetched word is two fetched bytes.**  A fetch of a word is charged after its second byte, and
fetches of bytes are charged after each of them.  The two cannot be told apart, because the second byte
is there whenever the first one is. -/
theorem fetchWord_eq_fetchByte :
    fetchWord = (do
      let low ← fetchByte
      let high ← fetchByte
      return Word.ofBytes low high) := by
  funext ⟨machine, budget⟩
  rw [fetchWord_eq]
  split
  · next first =>
    have second : Addressable (machine.skip 1).registers.pc := Word.addressable_wrap _
    have high : (machine.skip 1).opcode = machine.byteAt (machine.registers.pc + 1) := by
      rw [Machine.opcode, Machine.skip_pc, Machine.byteAt_wrap, Machine.byteAt_skip]
    rw [bind_of_ok (fetchByte_of_addressable first), bind_of_ok (fetchByte_of_addressable second),
      Machine.skip_skip, Budget.charge_charge, high]
    rfl
  · next outside => rw [bind_of_error (fetchByte_of_not_addressable outside)]

/-! ## Reads -/

theorem readByte_of_not_addressable (outside : ¬ Addressable address) :
    readByte address ⟨machine, budget⟩ = .error (.addressOutOfRange address) ⟨machine, budget⟩ := by
  rw [readByte, bind_of_error (peek_of_not_addressable outside)]

/-- What a read of a word comes to, whatever the address.  From the last cell of the memory the first
byte is read and charged, and only then it shows that there is no second one. -/
theorem readWord_eq (machine : Machine) (budget : Budget) (address : Int) :
    readWord address ⟨machine, budget⟩ =
      if 0 ≤ address ∧ address ≤ 65534 then
        .ok (machine.wordAt address) ⟨machine, budget.charge 2⟩
      else if address = 65535 then
        .error (.addressOutOfRange 65536) ⟨machine, budget.charge 1⟩
      else .error (.addressOutOfRange address) ⟨machine, budget⟩ := by
  split
  · next inside => exact readWord_of_addressable ⟨by omega, by omega⟩ ⟨by omega, by omega⟩
  · next outside =>
    split
    · next last =>
      subst last
      rw [readWord, bind_of_ok (readByte_of_addressable (by decide)),
        bind_of_error (readByte_of_not_addressable (by decide))]
      rfl
    · next other =>
      have nowhere : ¬ Addressable address := by
        rw [Memory.addressable_iff]
        omega
      rw [readWord, bind_of_error (readByte_of_not_addressable nowhere)]

/-- Each outcome of a read of a word belongs to some addresses: both cells exist, only the first one
does, or neither. -/
theorem readWord_iff (machine : Machine) (budget : Budget) (address : Int) :
    (readWord address ⟨machine, budget⟩ =
        .ok (machine.memory.value address + 256 * machine.memory.value (address + 1))
          ⟨machine, budget.charge 2⟩ ↔
      0 ≤ address ∧ address ≤ 65534) ∧
    (readWord address ⟨machine, budget⟩ =
        .error (.addressOutOfRange 65536) ⟨machine, budget.charge 1⟩ ↔
      address = 65535) ∧
    (readWord address ⟨machine, budget⟩ =
        .error (.addressOutOfRange address) ⟨machine, budget⟩ ↔
      address < 0 ∨ 65535 < address) := by
  rw [readWord_eq]
  split
  · next inside =>
    have word : machine.wordAt address =
        machine.memory.value address + 256 * machine.memory.value (address + 1) :=
      Machine.wordAt_of_addressable ⟨by omega, by omega⟩ ⟨by omega, by omega⟩
    rw [word]
    refine ⟨iff_of_true rfl inside, iff_of_false ?_ (by omega), iff_of_false ?_ (by omega)⟩
    · simp only [reduceCtorEq, not_false_eq_true]
    · simp only [reduceCtorEq, not_false_eq_true]
  · next outside =>
    split
    · next last =>
      refine ⟨iff_of_false ?_ outside, iff_of_true rfl last, iff_of_false ?_ (by omega)⟩
      · simp only [reduceCtorEq, not_false_eq_true]
      · intro same
        have address_eq := Fault.addressOutOfRange.inj (EStateM.Result.error.inj same).1
        omega
    · next other =>
      refine ⟨iff_of_false ?_ outside, iff_of_false ?_ other, iff_of_true rfl (by omega)⟩
      · simp only [reduceCtorEq, not_false_eq_true]
      · -- The fault may be the same one, of the address after the last cell; the charge is not.
        intro same
        have charged : budget = budget.charge 1 :=
          congrArg Clocked.budget (EStateM.Result.error.inj same).2
        have remaining := congrArg Budget.remaining charged
        rw [Budget.charge_remaining] at remaining
        omega

end Access

/-! ## Writes -/

namespace Memory

variable {memory after : Memory} {address value : Int} {budget rest : Budget}

/-- A word that was written: its two cells hold its two low bytes, and the others what they held. -/
theorem value_of_writeWord (written : memory.writeWord address value budget = .ok (after, rest)) :
    Addressable address ∧ Addressable (address + 1) ∧ after.value address = value % 256 ∧
      after.value (address + 1) = value / 256 % 256 ∧
      ∀ cell, Addressable cell → cell ≠ address → cell ≠ address + 1 →
        after.value cell = memory.value cell := by
  rw [writeWord_eq] at written
  split at written
  · next inside =>
    cases written
    have low : Addressable address := ⟨by omega, by omega⟩
    have high : Addressable (address + 1) := ⟨by omega, by omega⟩
    obtain ⟨first, second, others⟩ :=
      memory.value_set_set (.ofInt value) (.ofInt (value / 256)) low high (by omega)
    rw [Word.toNat_ofInt] at first second
    exact ⟨low, high, first, second, others⟩
  · cases written

/-- The word in two cells after it was written there. -/
theorem wordAt_of_writeWord {machine : Machine}
    (written : memory.writeWord address value budget = .ok (machine.memory, rest)) :
    machine.wordAt address = value % 65536 := by
  obtain ⟨low, high, first, second, -⟩ := value_of_writeWord written
  rw [Machine.wordAt_of_addressable low high, first, second]
  omega

end Memory

namespace Access

/-- **Words are two bytes, also where there are none.**  A fetch of a word is two fetches of bytes, in
its result or its fault, the program counter and the budget.  It goes through the end of memory, and
faults only if its first byte is outside.

A read of a word is the word in two cells if both exist.  It faults with the address after the last
cell, one cycle charged, if only the first of them exists, and with the first address, nothing charged,
if neither does.  The machine stays as it is.

A word that was written somewhere is found there by a read and by a fetch, and no other cell has
changed. -/
theorem words_bytewise (machine : Machine) (budget : Budget) (address : Int) :
    let pc := machine.registers.pc
    let m := machine.memory.value
    let moved (pc : Int) : Machine := { machine with registers := { machine.registers with pc } }
    (fetchWord ⟨machine, budget⟩ =
      (do
        let low ← fetchByte
        let high ← fetchByte
        return (low.toNat + 256 * high.toNat : Int) : Access Int) ⟨machine, budget⟩) ∧
    (fetchWord ⟨machine, budget⟩ =
      if Addressable pc then
        .ok (m pc + 256 * m ((pc + 1) % 65536)) ⟨moved ((pc + 2) % 65536), budget.charge 2⟩
      else .error (.addressOutOfRange pc) ⟨machine, budget⟩) ∧
    (readWord address ⟨machine, budget⟩ =
        .ok (m address + 256 * m (address + 1)) ⟨machine, budget.charge 2⟩ ↔
      0 ≤ address ∧ address ≤ 65534) ∧
    (readWord address ⟨machine, budget⟩ =
        .error (.addressOutOfRange 65536) ⟨machine, budget.charge 1⟩ ↔
      address = 65535) ∧
    (readWord address ⟨machine, budget⟩ =
        .error (.addressOutOfRange address) ⟨machine, budget⟩ ↔
      address < 0 ∨ 65535 < address) ∧
    ∀ value spent after rest,
      machine.memory.writeWord address value spent = .ok (after, rest) →
      let found := { machine with memory := after }
      let there (pc : Int) : Machine := { moved pc with memory := after }
      readWord address ⟨found, budget⟩ = .ok (value % 65536) ⟨found, budget.charge 2⟩ ∧
      fetchWord ⟨there address, budget⟩ =
        .ok (value % 65536) ⟨there ((address + 2) % 65536), budget.charge 2⟩ ∧
      ∀ cell, Addressable cell → cell ≠ address → cell ≠ address + 1 →
        after.value cell = m cell := by
  intro pc m moved
  obtain ⟨inside, last, outside⟩ := readWord_iff machine budget address
  refine ⟨congrFun fetchWord_eq_fetchByte _, ?_, inside, last, outside, ?_⟩
  · rw [fetchWord_eq]
    split
    · next first =>
      rw [Machine.wordAt, Word.ofBytes, machine.toNat_byteAt_of_addressable first,
        machine.toNat_byteAt]
      rfl
    · rfl
  · intro value spent after rest written found there
    obtain ⟨low, high, -, -, others⟩ := Memory.value_of_writeWord written
    have read : found.wordAt address = value % 65536 := Memory.wordAt_of_writeWord written
    have fetched : (there address).wordAt address = value % 65536 :=
      Memory.wordAt_of_writeWord written
    refine ⟨?_, ?_, others⟩
    · rw [readWord_of_addressable low high, read]
    · have fetches : fetchWord ⟨there address, budget⟩ =
          .ok ((there address).wordAt address) ⟨(there address).skip 2, budget.charge 2⟩ :=
        fetchWord_of_addressable low
      rw [fetches, fetched]
      rfl

/-- A negative word in the last two cells, with a program counter that is outside at first. -/
theorem words_bytewise_end :
    let after := (Memory.blank.set 0xFFFE 0xFE).set 0xFFFF 0xFF
    let machine : Machine := { memory := after, registers := { pc := 0x10000 } }
    let there (pc : Int) : Machine := { memory := after, registers := { pc } }
    Memory.blank.writeWord 0xFFFE (-2) (.ofRequest 9) = .ok (after, ⟨9, 7⟩) ∧
      readWord 0xFFFE ⟨machine, .ofRequest 2⟩ = .ok 0xFFFE ⟨machine, ⟨2, 0⟩⟩ ∧
      fetchWord ⟨there 0xFFFE, .ofRequest 2⟩ = .ok 0xFFFE ⟨there 0, ⟨2, 0⟩⟩ ∧
      readWord 0xFFFF ⟨machine, .ofRequest 2⟩ =
        .error (.addressOutOfRange 0x10000) ⟨machine, ⟨2, 1⟩⟩ ∧
      fetchWord ⟨machine, .ofRequest 2⟩ =
        .error (.addressOutOfRange 0x10000) ⟨machine, .ofRequest 2⟩ := by
  intro after machine there
  have written : Memory.blank.writeWord 0xFFFE (-2) (.ofRequest 9) = .ok (after, ⟨9, 7⟩) := by rfl
  obtain ⟨-, -, -, -, -, stored⟩ :=
    words_bytewise { registers := { pc := 0x10000 } } (.ofRequest 2) 0xFFFE
  obtain ⟨read, fetched, -⟩ := stored (-2) _ after _ written
  obtain ⟨-, outside, -, last, -⟩ := words_bytewise machine (.ofRequest 2) 0xFFFF
  exact ⟨written, read, fetched, last.mpr rfl, outside⟩

end Access

end Machine6502
