import Machine6502.Proofs.Cells
import Machine6502.Run

/-!
# What an instruction does

`Access.instruction` is written access by access: it fetches, charges, reads and pushes,
and each of these can fault.  This module states its outcome in one piece, as a function
of the machine alone.  `Machine.effect` looks up the opcode, takes the operand from the
cells it lies in, the new machine from two formulas (a load and a call) and the cycles
from the instruction table; nothing of it runs on a budget.

* `Machine.byteAt`, `Machine.wordAt` — the cells seen through addresses that wrap.
* `Machine.target` — the address each mode finds its operand at.
* `Machine.loaded`, `Machine.called` — the machine after a load and after a call.
* `Machine.effect` — what the instruction at the program counter comes to.

`Access.instruction_eq` says that the two agree on every state, faults and charges
included.  Everything else about instructions is read off `Machine.effect`; the accesses
are not opened again after this module.

### Where a fault can come from

An operand address is always the value of a byte, of a word, or of a sum that was wrapped,
whatever the index registers hold.  So after the opcode was fetched only a push onto a flat
stack can leave the memory, and `Machine.HasRoom` is exactly when it does not.
-/

namespace Machine6502

/-- An address that names a cell. -/
structure Memory.Addressable (address : Int) : Prop where
  nonneg : 0 ≤ address
  small : address < 65536

open Memory (Addressable)

theorem Memory.addressable_iff {address : Int} :
    Addressable address ↔ 0 ≤ address ∧ address < 65536 := by
  constructor
  · rintro ⟨nonneg, small⟩
    exact ⟨nonneg, small⟩
  · rintro ⟨nonneg, small⟩
    exact ⟨nonneg, small⟩

instance (address : Int) : Decidable (Addressable address) :=
  decidable_of_iff' _ Memory.addressable_iff

theorem Memory.toNat_lt_size {address : Int} (h : Addressable address) : address.toNat < size := by
  have := h.small
  simp only [size]
  omega

theorem Memory.read_of_addressable (memory : Memory) {address : Int}
    (h : Addressable address) : memory.read address = .ok (memory.get address.toNat) := by
  rw [read, cellOf_of_inRange h.nonneg h.small]
  rfl

theorem Memory.read_of_not_addressable (memory : Memory) {address : Int}
    (h : ¬ Addressable address) : memory.read address = .error (.addressOutOfRange address) := by
  have out : address < 0 ∨ 65536 ≤ address := by
    rw [addressable_iff] at h; omega
  rw [read, cellOf_of_outOfRange out]
  rfl

theorem Memory.write_of_addressable (memory : Memory) {address : Int} (h : Addressable address)
    (value : Int) : memory.write address value = .ok (memory.set address.toNat (.ofInt value)) := by
  rw [write, cellOf_of_inRange h.nonneg h.small]
  rfl

/-- Every register holds a value that it has room for.  A file that was restored whole need
not, and most of this module does not ask for it. -/
structure Registers.Fitted (registers : Registers) : Prop where
  pc : Addressable registers.pc
  sp : Addressable registers.sp
  a : 0 ≤ registers.a ∧ registers.a < 256
  x : 0 ≤ registers.x ∧ registers.x < 256
  y : 0 ≤ registers.y ∧ registers.y < 256

namespace Word

theorem addressable_wrap (value : Int) : Addressable (wrap value) :=
  ⟨wrap_nonneg value, wrap_lt value⟩

theorem addressable_ofBytes (low high : UInt8) : Addressable (ofBytes low high) :=
  ⟨ofBytes_nonneg low high, ofBytes_lt low high⟩

theorem wrap_of_addressable {value : Int} (h : Addressable value) : wrap value = value :=
  wrap_eq_self h.nonneg h.small

@[simp] theorem wrap_wrap_add (value offset : Int) :
    wrap (wrap value + offset) = wrap (value + offset) := by
  unfold wrap; omega

end Word

namespace Machine

/-! ## Cells and operands -/

/-- The byte at an address, which wraps at the end of memory. -/
def byteAt (machine : Machine) (address : Int) : UInt8 :=
  machine.memory.get (Word.wrap address).toNat

/-- The word at an address and the one after it, low byte first. -/
def wordAt (machine : Machine) (address : Int) : Int :=
  Word.ofBytes (machine.byteAt address) (machine.byteAt (address + 1))

@[simp] theorem byteAt_wrap_add (machine : Machine) (address offset : Int) :
    machine.byteAt (Word.wrap address + offset) = machine.byteAt (address + offset) := by
  rw [byteAt, byteAt, Word.wrap_wrap_add]

@[simp] theorem byteAt_wrap (machine : Machine) (address : Int) :
    machine.byteAt (Word.wrap address) = machine.byteAt address := by
  rw [byteAt, byteAt, Word.wrap_wrap]

@[simp] theorem wordAt_wrap (machine : Machine) (address : Int) :
    machine.wordAt (Word.wrap address) = machine.wordAt address := by
  rw [wordAt, wordAt, byteAt_wrap, byteAt_wrap_add]

theorem byteAt_of_addressable (machine : Machine) {address : Int} (h : Addressable address) :
    machine.byteAt address = machine.memory.get address.toNat := by
  rw [byteAt, Word.wrap_of_addressable h]

theorem read_of_addressable (machine : Machine) {address : Int} (h : Addressable address) :
    machine.memory.read address = .ok (machine.byteAt address) := by
  rw [machine.memory.read_of_addressable h, machine.byteAt_of_addressable h]

theorem addressable_wordAt (machine : Machine) (address : Int) :
    Addressable (machine.wordAt address) :=
  Word.addressable_ofBytes _ _

/-- The register that a mode adds to an address, or zero. -/
def index (machine : Machine) : AddressingMode → Int
  | .zeroPageX | .absoluteX | .indirectX => machine.registers.x
  | .absoluteY | .indirectY => machine.registers.y
  | .immediate | .zeroPage | .absolute => 0

/-- The address that a mode starts from, before an index is added.  `site` is the address
of the first operand byte. -/
def base (machine : Machine) (site : Int) : AddressingMode → Int
  | .immediate => Word.wrap site
  | .zeroPage | .zeroPageX | .indirectX => (machine.byteAt site).toNat
  | .absolute | .absoluteX | .absoluteY => machine.wordAt site
  | .indirectY => machine.wordAt (machine.byteAt site).toNat

/-- The address at which a mode finds its operand. -/
def target (machine : Machine) (site : Int) : AddressingMode → Int
  | .immediate => Word.wrap site
  | .zeroPage => (machine.byteAt site).toNat
  | .zeroPageX => Word.lowByte ((machine.byteAt site).toNat + machine.registers.x)
  | .absolute => machine.wordAt site
  | .absoluteX => Word.wrap (machine.wordAt site + machine.registers.x)
  | .absoluteY => Word.wrap (machine.wordAt site + machine.registers.y)
  | .indirectX => machine.wordAt (Word.lowByte ((machine.byteAt site).toNat + machine.registers.x))
  | .indirectY =>
      Word.wrap (machine.wordAt (machine.byteAt site).toNat + machine.registers.y)

theorem addressable_byte (byte : UInt8) : Addressable byte.toNat := by
  have := byte.toNat_lt
  constructor <;> omega

/-- **No mode leaves the memory**, whatever its operand bytes and the index registers
hold. -/
theorem addressable_target (machine : Machine) (site : Int) (mode : AddressingMode) :
    Addressable (machine.target site mode) := by
  cases mode with
  | immediate | absoluteX | absoluteY | indirectY => exact Word.addressable_wrap _
  | zeroPage => exact addressable_byte _
  | zeroPageX =>
    have := Word.lowByte_lt ((machine.byteAt site).toNat + machine.registers.x)
    exact ⟨Word.lowByte_nonneg _, by simp only [target]; omega⟩
  | absolute | indirectX => exact addressable_wordAt _ _

@[simp] theorem base_wrap (machine : Machine) (site : Int) (mode : AddressingMode) :
    machine.base (Word.wrap site) mode = machine.base site mode := by
  cases mode <;> simp [base]

@[simp] theorem target_wrap (machine : Machine) (site : Int) (mode : AddressingMode) :
    machine.target (Word.wrap site) mode = machine.target site mode := by
  cases mode <;> simp [target]

/-! ## The machine after a load and after a call -/

/-- The machine with its program counter moved on by some bytes. -/
def skip (machine : Machine) (bytes : Int) : Machine :=
  { machine with registers := machine.registers.setPc (machine.registers.pc + bytes) }

/-- The machine after the load of a mode. -/
def loaded (machine : Machine) (mode : AddressingMode) : Machine :=
  let site := machine.registers.pc + 1
  let moved := machine.registers.setPc (site + mode.operandSize)
  { machine with
    registers := (moved.setA (machine.byteAt (machine.target site mode)).toNat).flagAccumulator }

/-- The address of a cell of the stack, counted from where the next push begins. -/
def stackCell (machine : Machine) (offset : Int) : Int :=
  match machine.stackMode with
  | .flat => machine.registers.sp + offset
  | .paged => stackPage + Word.lowByte (machine.registers.sp + offset)

/-- The machine after a word was pushed. -/
def pushed (machine : Machine) (value : Int) : Machine :=
  { machine with
    memory := (machine.memory.set (machine.stackCell 0).toNat (.ofInt value)).set
      (machine.stackCell 1).toNat (.ofInt (value / 256))
    registers := machine.registers.setSp (machine.stackCell 2) }

/-- The machine after a call: the address of the last operand byte is pushed, and the
program counter is the operand. -/
def called (machine : Machine) : Machine :=
  let pc := machine.registers.pc
  let pushed := (machine.skip 3).pushed (Word.wrap (pc + 2))
  { pushed with registers := pushed.registers.setPc (machine.wordAt (pc + 1)) }

/-- Both cells of the next push are cells of the memory. -/
def HasRoom (machine : Machine) : Prop :=
  machine.stackMode = .flat → 0 ≤ machine.registers.sp ∧ machine.registers.sp ≤ 65534

instance (machine : Machine) : Decidable machine.HasRoom :=
  inferInstanceAs (Decidable (_ → _))

/-- The first cell of the next push that is no cell of the memory, when there is one. -/
def overrun (machine : Machine) : Int :=
  if Addressable machine.registers.sp then 65536 else machine.registers.sp

theorem addressable_stackCell_of_paged {machine : Machine} (paged : machine.stackMode = .paged)
    (offset : Int) : Addressable (machine.stackCell offset) := by
  have := Word.lowByte_nonneg (machine.registers.sp + offset)
  have := Word.lowByte_lt (machine.registers.sp + offset)
  constructor <;> simp only [stackCell, paged, stackPage] <;> omega

/-- Where there is room, the two cells of the next push are cells of the memory. -/
theorem addressable_stackCell {machine : Machine} (room : machine.HasRoom) :
    Addressable (machine.stackCell 0) ∧ Addressable (machine.stackCell 1) := by
  cases mode : machine.stackMode with
  | flat =>
    obtain ⟨nonneg, small⟩ := room mode
    simp only [stackCell, mode, Memory.addressable_iff]
    omega
  | paged => exact ⟨addressable_stackCell_of_paged mode 0, addressable_stackCell_of_paged mode 1⟩

theorem stackMode_of_not_hasRoom {machine : Machine} (full : ¬ machine.HasRoom) :
    machine.stackMode = .flat := by
  cases mode : machine.stackMode with
  | flat => rfl
  | paged =>
    -- A paged stack always has room, so there is nothing to show.
    refine absurd ?_ full
    intro flat
    exact absurd (mode.symm.trans flat) (by decide)

@[simp] theorem skip_pc (machine : Machine) (bytes : Int) :
    (machine.skip bytes).registers.pc = Word.wrap (machine.registers.pc + bytes) := rfl

@[simp] theorem skip_skip (machine : Machine) (first second : Int) :
    (machine.skip first).skip second = machine.skip (first + second) := by
  simp [skip, Registers.setPc, Int.add_assoc]

@[simp] theorem byteAt_skip (machine : Machine) (bytes address : Int) :
    (machine.skip bytes).byteAt address = machine.byteAt address := rfl

@[simp] theorem wordAt_skip (machine : Machine) (bytes address : Int) :
    (machine.skip bytes).wordAt address = machine.wordAt address := rfl

@[simp] theorem target_skip (machine : Machine) (bytes site : Int) (mode : AddressingMode) :
    (machine.skip bytes).target site mode = machine.target site mode := by
  cases mode <;> rfl

@[simp] theorem base_skip (machine : Machine) (bytes site : Int) (mode : AddressingMode) :
    (machine.skip bytes).base site mode = machine.base site mode := by
  cases mode <;> rfl

/-! ## The effect -/

/-- What an instruction comes to, with the cycles it is charged until then. -/
inductive Effect where
  | completed (machine : Machine) (cycles : Int)
  | faulted (fault : Fault) (machine : Machine) (cycles : Int)

/-- An effect as the result of an access that draws on `budget`. -/
def Effect.result (budget : Budget) : Effect → EStateM.Result Fault Clocked Unit
  | .completed machine cycles => .ok () ⟨machine, budget.charge cycles⟩
  | .faulted fault machine cycles => .error fault ⟨machine, budget.charge cycles⟩

/-- The opcode at the program counter. -/
def opcode (machine : Machine) : UInt8 := machine.byteAt machine.registers.pc

/-- The row of the opcode at the program counter. -/
def row? (machine : Machine) : Option Instruction :=
  Instruction.ofOpcode? machine.opcode.toNat

/-- The cycles of a row at the program counter: those of the table, and one more when the
row has a page penalty and the index carries into another page. -/
def cost (machine : Machine) (row : Instruction) : Int :=
  let site := machine.registers.pc + 1
  let crosses := Word.crossesPage (machine.base site row.mode) (machine.target site row.mode)
  row.cycles + (row.pagePenalty && crosses).toNat

/-- What the instruction at the program counter comes to. -/
def effect (machine : Machine) : Effect :=
  if Addressable machine.registers.pc then
    match machine.row? with
    | none =>
        .faulted (.unhandledOpcode machine.opcode.toNat (some machine.registers.pc))
          (machine.skip 1) 1
    | some row =>
        match row.operation with
        | .lda => .completed (machine.loaded row.mode) (machine.cost row)
        | .jsr =>
            if machine.HasRoom then .completed machine.called (machine.cost row)
            else .faulted (.addressOutOfRange machine.overrun) (machine.skip 3) 3
  else .faulted (.addressOutOfRange machine.registers.pc) machine 0

end Machine

namespace Access

variable {machine : Machine} {budget : Budget}

/-! ## One equation for each access

The states below are written `⟨machine, budget⟩`, so that an equation shows side by side
what an access does to the machine and what it charges. -/

theorem bind_of_ok {α β : Type} {access : Access α} {rest : α → Access β} {value : α}
    {state state' : Clocked} (run : access state = .ok value state') :
    (access >>= rest) state = rest value state' := by
  simp only [bind, EStateM.bind, run]

theorem bind_of_error {α β : Type} {access : Access α} {rest : α → Access β} {fault : Fault}
    {state state' : Clocked} (run : access state = .error fault state') :
    (access >>= rest) state = .error fault state' := by
  simp only [bind, EStateM.bind, run]

theorem registers_eq : registers ⟨machine, budget⟩ = .ok machine.registers ⟨machine, budget⟩ :=
  rfl

theorem get_eq (state : Clocked) : (get : Access Clocked) state = .ok state state := rfl

theorem peek_of_addressable {address : Int} (h : Addressable address) :
    peek address ⟨machine, budget⟩ = .ok (machine.byteAt address) ⟨machine, budget⟩ := by
  simp only [peek, machine.read_of_addressable h]

theorem peek_of_not_addressable {address : Int} (h : ¬ Addressable address) :
    peek address ⟨machine, budget⟩ = .error (.addressOutOfRange address) ⟨machine, budget⟩ := by
  simp only [peek, machine.memory.read_of_not_addressable h]

theorem next_of_addressable (h : Addressable machine.registers.pc) :
    next ⟨machine, budget⟩ = .ok machine.opcode ⟨machine.skip 1, budget⟩ := by
  rw [next, bind_of_ok registers_eq,
    bind_of_ok (peek_of_addressable h)]
  rfl

theorem next_of_not_addressable (h : ¬ Addressable machine.registers.pc) :
    next ⟨machine, budget⟩ =
      .error (.addressOutOfRange machine.registers.pc) ⟨machine, budget⟩ := by
  rw [next, bind_of_ok registers_eq,
    bind_of_error (peek_of_not_addressable h)]

theorem fetchByte_of_addressable (h : Addressable machine.registers.pc) :
    fetchByte ⟨machine, budget⟩ = .ok machine.opcode ⟨machine.skip 1, budget.charge 1⟩ := by
  rw [fetchByte, bind_of_ok (next_of_addressable h)]
  rfl

theorem fetchByte_of_not_addressable (h : ¬ Addressable machine.registers.pc) :
    fetchByte ⟨machine, budget⟩ =
      .error (.addressOutOfRange machine.registers.pc) ⟨machine, budget⟩ := by
  rw [fetchByte, bind_of_error (next_of_not_addressable h)]

/-- Only the first byte of a word that is fetched can lie outside the memory: the program
counter was wrapped before the second one. -/
theorem fetchWord_of_addressable (h : Addressable machine.registers.pc) :
    fetchWord ⟨machine, budget⟩ =
      .ok (machine.wordAt machine.registers.pc) ⟨machine.skip 2, budget.charge 2⟩ := by
  have second : Addressable (machine.skip 1).registers.pc := Word.addressable_wrap _
  have high : (machine.skip 1).opcode = machine.byteAt (machine.registers.pc + 1) := by
    simp [Machine.opcode]
  rw [fetchWord, bind_of_ok (next_of_addressable h), bind_of_ok (next_of_addressable second),
    Machine.skip_skip, high]
  rfl

theorem readByte_of_addressable {address : Int} (h : Addressable address) :
    readByte address ⟨machine, budget⟩ =
      .ok (machine.byteAt address) ⟨machine, budget.charge 1⟩ := by
  rw [readByte, bind_of_ok (peek_of_addressable h)]
  rfl

theorem readWord_of_addressable {address : Int} (h : Addressable address)
    (h' : Addressable (address + 1)) :
    readWord address ⟨machine, budget⟩ =
      .ok (machine.wordAt address) ⟨machine, budget.charge 2⟩ := by
  rw [readWord, bind_of_ok (readByte_of_addressable h), bind_of_ok (readByte_of_addressable h'),
    Budget.charge_charge]
  rfl

theorem indexed_eq (base index : Int) :
    indexed base index ⟨machine, budget⟩ =
      .ok (Word.wrap (base + index))
        ⟨machine, budget.charge (Word.crossesPage base (Word.wrap (base + index))).toNat⟩ :=
  rfl

theorem zeroPageIndexed_eq (zeroPage : UInt8) :
    zeroPageIndexed zeroPage ⟨machine, budget⟩ =
      .ok (Word.lowByte (zeroPage.toNat + machine.registers.x)) ⟨machine, budget.charge 1⟩ :=
  rfl

theorem poke_of_addressable {address : Int} (h : Addressable address) (value : Int) :
    poke address value ⟨machine, budget⟩ =
      .ok () ⟨{ machine with memory := machine.memory.set address.toNat (.ofInt value) },
        budget⟩ := by
  simp only [poke, machine.memory.write_of_addressable h]

theorem storeWord_of_addressable {address : Int} (h : Addressable address)
    (h' : Addressable (address + 1)) (value : Int) :
    storeWord address value ⟨machine, budget⟩ =
      .ok () ⟨{ machine with
        memory := (machine.memory.set address.toNat (.ofInt value)).set (address + 1).toNat
          (.ofInt (value / 256)) }, budget.charge 2⟩ := by
  have inside : 0 ≤ address ∧ address + 2 ≤ 65536 := by
    have := h.nonneg
    have := h'.small
    omega
  simp only [storeWord, machine.memory.writeWord_eq, if_pos inside]

/-- Both addresses are checked before the budget or the memory is touched, so the fault
names the first one that is no cell. -/
theorem storeWord_of_not_addressable {address : Int}
    (h : ¬ (Addressable address ∧ Addressable (address + 1))) (value : Int) :
    storeWord address value ⟨machine, budget⟩ =
      .error (.addressOutOfRange (if Addressable address then address + 1 else address))
        ⟨machine, budget⟩ := by
  have named : Memory.reported address 2 =
      if Addressable address then address + 1 else address := by
    simp only [Memory.reported, Memory.addressable_iff]
    split <;> omega
  have out : ¬ (0 ≤ address ∧ address + 2 ≤ 65536) := by
    rw [Memory.addressable_iff, Memory.addressable_iff] at h
    omega
  simp only [storeWord, machine.memory.writeWord_eq, if_neg out, named]

theorem pushWord_of_hasRoom (room : machine.HasRoom) (value : Int) :
    pushWord value ⟨machine, budget⟩ = .ok () ⟨machine.pushed value, budget.charge 2⟩ := by
  obtain ⟨low, high⟩ := machine.addressable_stackCell room
  rw [pushWord, bind_of_ok (get_eq _)]
  -- The two modes push by different accesses, a checked word and two single bytes.
  cases mode : machine.stackMode with
  | flat =>
    simp only [Machine.stackCell, mode, Int.add_zero] at low high
    dsimp only
    rw [bind_of_ok registers_eq, bind_of_ok (storeWord_of_addressable low high value)]
    simp [adjust, Machine.pushed, Machine.stackCell, mode]
  | paged =>
    simp only [Machine.stackCell, mode, Int.add_zero] at low high
    dsimp only
    rw [bind_of_ok registers_eq, bind_of_ok (poke_of_addressable low value),
      bind_of_ok (poke_of_addressable high (value / 256))]
    simp [charge, adjust, bind, EStateM.bind, Machine.pushed, Machine.stackCell, mode]

theorem pushWord_of_not_hasRoom (full : ¬ machine.HasRoom) (value : Int) :
    pushWord value ⟨machine, budget⟩ =
      .error (.addressOutOfRange machine.overrun) ⟨machine, budget⟩ := by
  have out : ¬ (Addressable machine.registers.sp ∧ Addressable (machine.registers.sp + 1)) := by
    rintro ⟨low, high⟩
    have := high.small
    exact full fun _ => ⟨low.nonneg, by omega⟩
  have address : (if Addressable machine.registers.sp then machine.registers.sp + 1
      else machine.registers.sp) = machine.overrun := by
    unfold Machine.overrun
    simp only [Memory.addressable_iff] at out ⊢
    split <;> omega
  rw [pushWord, bind_of_ok (get_eq _), Machine.stackMode_of_not_hasRoom full]
  dsimp only
  rw [bind_of_ok registers_eq, bind_of_error (storeWord_of_not_addressable out value), address]

/-! ## Operands and instructions -/

/-- The cycles a mode is charged for its operand, without the page penalty. -/
def operandCycles : AddressingMode → Int
  | .immediate => 1
  | .zeroPage => 2
  | .zeroPageX | .absolute | .absoluteX | .absoluteY => 3
  | .indirectX => 5
  | .indirectY => 4

/-- The modes that pay for an index that carries into another page. -/
def paysForPage : AddressingMode → Bool
  | .absoluteX | .absoluteY | .indirectY => true
  | .immediate | .zeroPage | .zeroPageX | .absolute | .indirectX => false

/-- The cycle a mode is charged when its index carries into another page. -/
def pagePenalty (machine : Machine) (mode : AddressingMode) : Int :=
  let site := machine.registers.pc
  (paysForPage mode && Word.crossesPage (machine.base site mode) (machine.target site mode)).toNat

theorem addressable_lowByte (value : Int) :
    Addressable (Word.lowByte value) ∧ Addressable (Word.lowByte value + 1) := by
  have := Word.lowByte_nonneg value
  have := Word.lowByte_lt value
  constructor <;> constructor <;> omega

theorem addressable_byte_succ (byte : UInt8) : Addressable ((byte.toNat : Int) + 1) := by
  have := byte.toNat_lt
  constructor <;> omega

/-- With the program counter at the first operand byte, a mode that has an address finds
`Machine.target`. -/
theorem effectiveAddress_eq (h : Addressable machine.registers.pc) {mode : AddressingMode}
    (ne : mode ≠ .immediate) :
    effectiveAddress mode ⟨machine, budget⟩ =
      .ok (machine.target machine.registers.pc mode)
        ⟨machine.skip mode.operandSize,
          budget.charge (operandCycles mode - 1 + pagePenalty machine mode)⟩ := by
  cases mode with
  | immediate => exact absurd rfl ne
  | zeroPage =>
    rw [effectiveAddress, bind_of_ok (fetchByte_of_addressable h)]
    rfl
  | zeroPageX =>
    rw [effectiveAddress, bind_of_ok (fetchByte_of_addressable h), zeroPageIndexed_eq,
      Budget.charge_charge]
    rfl
  | absolute =>
    rw [effectiveAddress, fetchWord_of_addressable h]
    rfl
  | absoluteX | absoluteY =>
    rw [effectiveAddress, bind_of_ok (fetchWord_of_addressable h), bind_of_ok registers_eq,
      indexed_eq, Budget.charge_charge]
    rfl
  | indirectX =>
    obtain ⟨low, high⟩ :=
      addressable_lowByte (machine.opcode.toNat + (machine.skip 1).registers.x)
    rw [effectiveAddress, bind_of_ok (fetchByte_of_addressable h),
      bind_of_ok (zeroPageIndexed_eq _), readWord_of_addressable low high,
      Budget.charge_charge, Budget.charge_charge]
    rfl
  | indirectY =>
    rw [effectiveAddress, bind_of_ok (fetchByte_of_addressable h),
      bind_of_ok (readWord_of_addressable (Machine.addressable_byte _)
        (addressable_byte_succ _)),
      bind_of_ok registers_eq, indexed_eq, Budget.charge_charge, Budget.charge_charge,
      ← Int.add_assoc]
    rfl

/-- Every mode reads the byte at `Machine.target`; no mode faults. -/
theorem readOperand_eq (h : Addressable machine.registers.pc) (mode : AddressingMode) :
    readOperand mode ⟨machine, budget⟩ =
      .ok (machine.byteAt (machine.target machine.registers.pc mode))
        ⟨machine.skip mode.operandSize,
          budget.charge (operandCycles mode + pagePenalty machine mode)⟩ := by
  -- An immediate operand is fetched; for every other mode the address comes first.
  by_cases immediate : mode = .immediate
  · subst immediate
    rw [readOperand, fetchByte_of_addressable h]
    simp [Machine.target, Machine.opcode, operandCycles, pagePenalty, paysForPage,
      AddressingMode.operandSize]
  · have split : readOperand mode = effectiveAddress mode >>= readByte := by
      cases mode <;> first | rfl | exact absurd rfl immediate
    have cell := (machine.skip mode.operandSize).addressable_target machine.registers.pc mode
    rw [Machine.target_skip] at cell
    rw [split, bind_of_ok (effectiveAddress_eq h immediate), readByte_of_addressable cell,
      Budget.charge_charge, Machine.byteAt_skip]
    congr 3
    omega

/-- The table and the charges tell the same story about loads: the opcode and the operand
make up the cycles of the row, and a penalty is paid by the modes whose row has one. -/
theorem cycles_of_mem_table {row : Instruction} (member : row ∈ Instruction.table)
    (load : row.operation = .lda) :
    (row.cycles : Int) = 1 + operandCycles row.mode ∧ row.pagePenalty = paysForPage row.mode := by
  revert row
  decide

/-- A load after its opcode was fetched. -/
theorem perform_lda {row : Instruction} (member : row ∈ Instruction.table)
    (load : row.operation = .lda) :
    perform .lda row.mode ⟨machine.skip 1, budget.charge 1⟩ =
      .ok () ⟨machine.loaded row.mode, budget.charge (machine.cost row)⟩ := by
  have operand : Addressable (machine.skip 1).registers.pc := Word.addressable_wrap _
  obtain ⟨cycles, penalty⟩ := cycles_of_mem_table member load
  -- The opcode, the operand and the penalty make up what the row says.
  have charged : 1 + (operandCycles row.mode + pagePenalty (machine.skip 1) row.mode) =
      machine.cost row := by
    simp only [pagePenalty, Machine.cost, Machine.skip_pc, Machine.base_skip, Machine.base_wrap,
      Machine.target_skip, Machine.target_wrap, cycles, penalty]
    omega
  rw [perform, bind_of_ok (readOperand_eq operand row.mode), Budget.charge_charge, charged]
  simp only [Machine.byteAt_skip, Machine.target_skip, Machine.skip_pc, Machine.target_wrap,
    Machine.skip_skip]
  simp only [adjust, Machine.loaded, Machine.skip, Int.add_assoc]

theorem wrap_skip_pc_sub_one : Word.wrap ((machine.skip 3).registers.pc - 1) =
    Word.wrap (machine.registers.pc + 2) := by
  simp only [Machine.skip_pc, Word.wrap]
  omega

/-- A call after its opcode was fetched, on a stack that has room. -/
theorem perform_jsr_of_hasRoom (room : machine.HasRoom) (mode : AddressingMode) :
    perform .jsr mode ⟨machine.skip 1, budget.charge 1⟩ =
      .ok () ⟨machine.called, budget.charge 6⟩ := by
  have operand : Addressable (machine.skip 1).registers.pc := Word.addressable_wrap _
  have room : (machine.skip 3).HasRoom := room
  rw [perform, bind_of_ok (fetchWord_of_addressable operand), Machine.skip_skip,
    show (1 + 2 : Int) = 3 from rfl, bind_of_ok registers_eq,
    bind_of_ok (pushWord_of_hasRoom room _), wrap_skip_pc_sub_one]
  simp [adjust, charge, bind, EStateM.bind, Machine.called]

/-- A call after its opcode was fetched, on a stack that has none: the operand is consumed
and nothing is pushed. -/
theorem perform_jsr_of_not_hasRoom (full : ¬ machine.HasRoom) (mode : AddressingMode) :
    perform .jsr mode ⟨machine.skip 1, budget.charge 1⟩ =
      .error (.addressOutOfRange machine.overrun) ⟨machine.skip 3, budget.charge 3⟩ := by
  have operand : Addressable (machine.skip 1).registers.pc := Word.addressable_wrap _
  have full : ¬ (machine.skip 3).HasRoom := full
  rw [perform, bind_of_ok (fetchWord_of_addressable operand), Machine.skip_skip,
    show (1 + 2 : Int) = 3 from rfl, bind_of_ok registers_eq,
    bind_of_error (pushWord_of_not_hasRoom full _), Budget.charge_charge]
  rfl

theorem cost_of_jsr {row : Instruction} (member : row ∈ Instruction.table)
    (jump : row.operation = .jsr) : machine.cost row = 6 := by
  have taken : row.cycles = 6 ∧ row.pagePenalty = false := by
    revert row
    decide
  simp [Machine.cost, taken]

/-- **An instruction is its effect.** -/
theorem instruction_eq (state : Clocked) :
    instruction state = state.toMachine.effect.result state.budget := by
  obtain ⟨machine, budget⟩ := state
  -- The case splits are those of `Machine.effect`, in the same order.
  rw [instruction, bind_of_ok registers_eq]
  by_cases inside : Addressable machine.registers.pc
  · rw [bind_of_ok (fetchByte_of_addressable inside), Machine.effect, if_pos inside]
    cases found : machine.row? with
    | none =>
      rw [show Instruction.ofOpcode? machine.opcode.toNat = none from found]
      rfl
    | some row =>
      have member := Instruction.mem_table_of_ofOpcode? found
      rw [show Instruction.ofOpcode? machine.opcode.toNat = some row from found]
      dsimp only
      cases operation : row.operation with
      | lda => rw [perform_lda member operation]; rfl
      | jsr =>
        by_cases room : machine.HasRoom
        · rw [perform_jsr_of_hasRoom room, if_pos room, cost_of_jsr member operation]
          rfl
        · rw [perform_jsr_of_not_hasRoom room, if_neg room]
          rfl
  · rw [bind_of_error (fetchByte_of_not_addressable inside), Machine.effect, if_neg inside]
    simp [Machine.Effect.result, Budget.charge]

end Access

namespace Machine

variable {machine after : Machine} {cycles : Int}

/-! ## The effect, case by case -/

theorem effect_of_outside (outside : ¬ Addressable machine.registers.pc) :
    machine.effect = .faulted (.addressOutOfRange machine.registers.pc) machine 0 :=
  if_neg outside

theorem effect_of_unlisted (inside : Addressable machine.registers.pc)
    (unlisted : machine.row? = none) :
    machine.effect = .faulted (.unhandledOpcode machine.opcode.toNat (some machine.registers.pc))
      (machine.skip 1) 1 := by
  rw [effect, if_pos inside, unlisted]

theorem effect_of_load {row : Instruction} (inside : Addressable machine.registers.pc)
    (found : machine.row? = some row) (load : row.operation = .lda) :
    machine.effect = .completed (machine.loaded row.mode) (machine.cost row) := by
  rw [effect, if_pos inside, found]
  simp only [load]

theorem effect_of_call {row : Instruction} (inside : Addressable machine.registers.pc)
    (found : machine.row? = some row) (jump : row.operation = .jsr) (room : machine.HasRoom) :
    machine.effect = .completed machine.called (machine.cost row) := by
  rw [effect, if_pos inside, found]
  simp only [jump, if_pos room]

theorem effect_of_full {row : Instruction} (inside : Addressable machine.registers.pc)
    (found : machine.row? = some row) (jump : row.operation = .jsr) (full : ¬ machine.HasRoom) :
    machine.effect = .faulted (.addressOutOfRange machine.overrun) (machine.skip 3) 3 := by
  rw [effect, if_pos inside, found]
  simp only [jump, if_neg full]

/-! ## Reading an effect backwards -/

theorem mem_table_of_row? {row : Instruction} (found : machine.row? = some row) :
    row ∈ Instruction.table ∧ row.opcode = machine.opcode := by
  refine ⟨Instruction.mem_table_of_ofOpcode? found, UInt8.toNat_inj.mp ?_⟩
  have := Instruction.opcode_of_ofOpcode? found
  omega

theorem row?_eq_none_iff :
    machine.row? = none ↔ ∀ row ∈ Instruction.table, row.opcode ≠ machine.opcode := by
  rw [row?, Instruction.ofOpcode?, List.find?_eq_none]
  simp only [beq_iff_eq, Int.natCast_inj, UInt8.toNat_inj, ne_eq]

/-- The one opcode of a call. -/
theorem operation_eq_jsr_iff {row : Instruction} (found : machine.row? = some row) :
    row.operation = .jsr ↔ machine.opcode = 0x20 := by
  have only : ∀ row ∈ Instruction.table, row.operation = .jsr ↔ row.opcode = 0x20 := by decide
  obtain ⟨member, opcode⟩ := mem_table_of_row? found
  rw [← opcode]
  exact only row member

/-- An instruction completes as a load, or as a call on a stack that has room. -/
theorem effect_eq_completed (h : machine.effect = .completed after cycles) :
    Addressable machine.registers.pc ∧ ∃ row, machine.row? = some row ∧
      cycles = machine.cost row ∧
      (row.operation = .lda ∧ after = machine.loaded row.mode ∨
        row.operation = .jsr ∧ machine.HasRoom ∧ after = machine.called) := by
  unfold effect at h
  split at h
  · next inside =>
    refine ⟨inside, ?_⟩
    split at h
    · cases h
    · next row found =>
      refine ⟨row, found, ?_⟩
      split at h
      · next load =>
        cases h
        exact ⟨rfl, .inl ⟨load, rfl⟩⟩
      · next jump =>
        split at h
        · next room =>
          cases h
          exact ⟨rfl, .inr ⟨jump, room, rfl⟩⟩
        · cases h
  · cases h

/-- An instruction faults outside the memory, on an opcode without a row, or as a call on
a stack that has no room. -/
theorem effect_eq_faulted {fault : Fault} (h : machine.effect = .faulted fault after cycles) :
    (¬ Addressable machine.registers.pc ∧ fault = .addressOutOfRange machine.registers.pc ∧
        after = machine) ∨
      (Addressable machine.registers.pc ∧ machine.row? = none ∧
        fault = .unhandledOpcode machine.opcode.toNat (some machine.registers.pc) ∧
        after = machine.skip 1) ∨
      (Addressable machine.registers.pc ∧ ¬ machine.HasRoom ∧
        (∃ row, machine.row? = some row ∧ row.operation = .jsr) ∧
        fault = .addressOutOfRange machine.overrun ∧ after = machine.skip 3) := by
  unfold effect at h
  split at h
  · next inside =>
    split at h
    · next unlisted =>
      cases h
      exact .inr (.inl ⟨inside, unlisted, rfl, rfl⟩)
    · next row found =>
      split at h
      · cases h
      · next jump =>
        split at h
        · cases h
        · next full =>
          cases h
          exact .inr (.inr ⟨inside, full, ⟨row, found, jump⟩, rfl, rfl⟩)
  · next outside =>
    cases h
    exact .inl ⟨outside, rfl, rfl⟩

@[simp] theorem loaded_pc (machine : Machine) (mode : AddressingMode) :
    (machine.loaded mode).registers.pc =
      Word.wrap (machine.registers.pc + 1 + mode.operandSize) := rfl

/-- A call goes to the word after its opcode, as it was before the push. -/
@[simp] theorem called_pc (machine : Machine) :
    machine.called.registers.pc = machine.wordAt (machine.registers.pc + 1) :=
  Word.wrap_of_addressable (machine.addressable_wordAt _)

@[simp] theorem called_sp (machine : Machine) :
    machine.called.registers.sp = Word.wrap (machine.stackCell 2) := rfl

theorem called_memory (machine : Machine) :
    machine.called.memory =
      (machine.memory.set (machine.stackCell 0).toNat
        (.ofInt (Word.wrap (machine.registers.pc + 2)))).set (machine.stackCell 1).toNat
          (.ofInt (Word.wrap (machine.registers.pc + 2) / 256)) := rfl

/-- A call changes the memory, the program counter and the stack pointer. -/
theorem called_eq (machine : Machine) :
    machine.called =
      { machine with
        memory := machine.called.memory
        registers := { machine.registers with
          pc := Word.wrap (machine.wordAt (machine.registers.pc + 1))
          sp := Word.wrap (machine.stackCell 2) } } := rfl

/-- A completed instruction leaves a program counter that names a cell. -/
theorem addressable_pc_of_effect (h : machine.effect = .completed after cycles) :
    Addressable after.registers.pc := by
  obtain ⟨-, row, -, -, ⟨-, rfl⟩ | ⟨-, -, rfl⟩⟩ := effect_eq_completed h
  · exact Word.addressable_wrap _
  · exact Word.addressable_wrap _

/-- What fits keeps fitting: a load changes the accumulator, a call the stack pointer. -/
theorem fitted_of_effect (fitted : machine.registers.Fitted)
    (h : machine.effect = .completed after cycles) : after.registers.Fitted := by
  have pc := addressable_pc_of_effect h
  obtain ⟨-, row, -, -, ⟨-, rfl⟩ | ⟨-, -, rfl⟩⟩ := effect_eq_completed h
  · exact ⟨pc, fitted.sp, ⟨Word.lowByte_nonneg _, Word.lowByte_lt _⟩, fitted.x, fitted.y⟩
  · exact ⟨pc, Word.addressable_wrap _, fitted.a, fitted.x, fitted.y⟩

/-- A completed instruction takes two cycles or more. -/
theorem two_le_of_effect (h : machine.effect = .completed after cycles) : 2 ≤ cycles := by
  obtain ⟨-, row, found, rfl, -⟩ := effect_eq_completed h
  have least : ∀ row ∈ Instruction.table, 2 ≤ row.cycles := by decide
  have := least row (mem_table_of_row? found).1
  simp only [cost]
  omega

/-- A completed instruction takes six cycles at most, a page penalty included. -/
theorem le_six_of_effect (h : machine.effect = .completed after cycles) : cycles ≤ 6 := by
  obtain ⟨-, row, found, rfl, -⟩ := effect_eq_completed h
  have most : ∀ row ∈ Instruction.table, row.cycles + row.pagePenalty.toNat ≤ 6 := by decide
  have := most row (mem_table_of_row? found).1
  simp only [cost]
  cases penalty : row.pagePenalty with
  | false => simp only [penalty, Bool.false_and, Bool.toNat_false] at this ⊢; omega
  | true =>
    have := Bool.toNat_le (Word.crossesPage (machine.base (machine.registers.pc + 1) row.mode)
      (machine.target (machine.registers.pc + 1) row.mode))
    simp only [penalty, Bool.true_and, Bool.toNat_true] at *
    omega

end Machine

end Machine6502
