import Machine6502.Proofs.Cells
import Machine6502.Proofs.Faults
import Machine6502.Proofs.Lockstep

/-!
# The cells a run reads

Which cells a run reads is found out by the run: an operand byte gives the address of a pointer,
the pointer the address of a datum, and a call may have written the opcode that comes next.  This
module says that nothing else matters.  A memory that agrees with another one on the cells that
a run reads makes the same run, byte for byte of what it writes, and keeps its own bytes wherever
the run writes none.

* `Access.Reads` — the addresses that an access reads, along the code of the access.
* `Machine.AgreesOn` — two machines that differ in cells only, and in none of some addresses.
* `Access.Reads.alike` — an access does the same on machines that agree on what it reads.
* `Machine.reads`, `Machine.readsOver` — the addresses that an instruction and a run read.
* `Entry.writes`, `Machine.writes` — the bytes that they write, with their cells.
* `Machine.execute_agreeing` — the law for whole runs.

### Two ways to say what is read

`Access.Reads` follows the code: a `peek` reads its address, everything else reads nothing, and
two accesses in sequence read what the first reads and then what the second does.  `Machine.reads`
computes the list from the machine, mode by mode.  `Access.reads_instruction` says that the second
is the first, and the law for runs is proved from the first alone: it does not look at modes.
-/

namespace Machine6502

open Memory (Addressable)

/-! ## What an access reads -/

namespace Access

/-- The access, run on this state, reads the memory at these addresses, in order. -/
inductive Reads : {α : Type} → Access α → Clocked → List Int → Prop where
  | peek (address : Int) (state : Clocked) : Reads (peek address) state [address]
  | pure {α : Type} (value : α) (state : Clocked) : Reads (pure value : Access α) state []
  | throw {α : Type} (fault : Fault) (state : Clocked) : Reads (throw fault : Access α) state []
  | charge (cycles : Int) (state : Clocked) : Reads (charge cycles) state []
  | registers (state : Clocked) : Reads registers state []
  | adjust (change : Registers → Registers) (state : Clocked) : Reads (adjust change) state []
  | poke (address value : Int) (state : Clocked) : Reads (poke address value) state []
  | storeWord (address value : Int) (state : Clocked) : Reads (storeWord address value) state []
  /-- Looking at the whole state, for nothing but its stack mode, reads no cell. -/
  | get {α : Type} {rest : Clocked → Access α} {state : Clocked} {later : List Int} :
      (∀ other : Clocked, other.stackMode = state.stackMode → rest other = rest state) →
      Reads (rest state) state later → Reads (get >>= rest) state later
  | bind {α β : Type} {access : Access α} {rest : α → Access β} {value : α} {state left : Clocked}
      {first later : List Int} :
      Reads access state first → access state = .ok value left →
      Reads (rest value) left later → Reads (access >>= rest) state (first ++ later)
  | bindError {α β : Type} {access : Access α} {rest : α → Access β} {fault : Fault}
      {state left : Clocked} {first : List Int} :
      Reads access state first → access state = .error fault left →
      Reads (access >>= rest) state first

end Access

/-! ## Machines that agree on some addresses -/

/-- The machines have the same registers and the same stack mode, and at these addresses their
memories answer alike. -/
structure Machine.AgreesOn (addresses : List Int) (machine twin : Machine) : Prop where
  stackMode : twin.stackMode = machine.stackMode
  registers : twin.registers = machine.registers
  memory : ∀ address ∈ addresses, twin.memory.read address = machine.memory.read address

/-- A cell that is written alike is read alike, and the others as before. -/
theorem Memory.read_set_congr {memory memory' : Memory} {address : Int} {cell : Nat}
    (small : cell < size) (value : UInt8) (same : memory'.read address = memory.read address) :
    (memory'.set cell value).read address = (memory.set cell value).read address := by
  by_cases inside : Addressable address
  · rw [read_of_addressable _ inside, read_of_addressable _ inside] at same ⊢
    by_cases written : address.toNat = cell
    · rw [written, get_set_self, get_set_self]
    · have bound := toNat_lt_size inside
      rw [get_set_of_ne _ value small bound written, get_set_of_ne _ value small bound written]
      exact same
  · rw [read_of_not_addressable _ inside, read_of_not_addressable _ inside]

/-- An address that names a cell names one of the memory. -/
theorem Memory.lt_size_of_cellOf {address : Int} {cell : Nat} (names : cellOf address = .ok cell) :
    cell < size := by
  unfold cellOf at names
  split at names
  · next inside =>
    cases names
    have := inside.2
    omega
  · cases names

namespace Machine.AgreesOn

variable {addresses fewer : List Int} {machine twin : Machine}

theorem mono (agrees : machine.AgreesOn addresses twin) (within : fewer ⊆ addresses) :
    machine.AgreesOn fewer twin :=
  ⟨agrees.stackMode, agrees.registers, fun address member => agrees.memory address (within member)⟩

/-- Writing the same byte into the same cell keeps the agreement. -/
theorem set (agrees : machine.AgreesOn addresses twin) {cell : Nat} (small : cell < Memory.size)
    (value : UInt8) :
    Machine.AgreesOn addresses { machine with memory := machine.memory.set cell value }
      { twin with memory := twin.memory.set cell value } :=
  ⟨agrees.stackMode, agrees.registers, fun address member =>
    Memory.read_set_congr small value (agrees.memory address member)⟩

/-- Changing the registers in the same way keeps the agreement. -/
theorem adjust (agrees : machine.AgreesOn addresses twin) (change : Registers → Registers) :
    Machine.AgreesOn addresses { machine with registers := change machine.registers }
      { twin with registers := change twin.registers } :=
  ⟨agrees.stackMode, congrArg change agrees.registers, agrees.memory⟩

end Machine.AgreesOn

namespace Access

/-- Two results say the same, on states that agree on some addresses and have one budget. -/
inductive Alike (addresses : List Int) {α : Type} :
    EStateM.Result Fault Clocked α → EStateM.Result Fault Clocked α → Prop where
  | ok {machine twin : Machine} (value : α) (budget : Budget) :
      machine.AgreesOn addresses twin →
      Alike addresses (.ok value ⟨machine, budget⟩) (.ok value ⟨twin, budget⟩)
  | error {machine twin : Machine} (fault : Fault) (budget : Budget) :
      machine.AgreesOn addresses twin →
      Alike addresses (.error fault ⟨machine, budget⟩) (.error fault ⟨twin, budget⟩)

variable {addresses read : List Int} {machine twin : Machine} {budget : Budget}

theorem alike_peek (agrees : machine.AgreesOn addresses twin) {address : Int}
    (listed : address ∈ addresses) :
    Alike addresses (peek address ⟨machine, budget⟩) (peek address ⟨twin, budget⟩) := by
  simp only [peek, agrees.memory address listed]
  cases machine.memory.read address with
  | ok value => exact .ok value budget agrees
  | error fault => exact .error fault budget agrees

theorem alike_poke (agrees : machine.AgreesOn addresses twin) (address value : Int) :
    Alike addresses (poke address value ⟨machine, budget⟩) (poke address value ⟨twin, budget⟩) := by
  simp only [poke, Memory.write]
  cases names : Memory.cellOf address with
  | ok cell => exact .ok () budget (agrees.set (Memory.lt_size_of_cellOf names) _)
  | error fault => exact .error fault budget agrees

theorem alike_storeWord (agrees : machine.AgreesOn addresses twin) (address value : Int) :
    Alike addresses (storeWord address value ⟨machine, budget⟩)
      (storeWord address value ⟨twin, budget⟩) := by
  simp only [storeWord, Memory.writeWord]
  cases names : Memory.cellOf address with
  | error fault => exact .error fault budget agrees
  | ok low =>
    cases names' : Memory.cellOf (address + 1) with
    | error fault => exact .error fault budget agrees
    | ok high =>
      exact .ok () (budget.charge 2) ((agrees.set (Memory.lt_size_of_cellOf names) _).set
        (Memory.lt_size_of_cellOf names') _)

/-- **An access depends on what it reads.**  By induction along the code of the access; the cells
it writes are written alike, so the machines go on agreeing. -/
theorem Reads.alike {α : Type} {access : Access α} {state : Clocked}
    (reads : Reads access state read) (within : read ⊆ addresses) :
    ∀ twin : Machine, state.toMachine.AgreesOn addresses twin →
      Alike addresses (access state) (access ⟨twin, state.budget⟩) := by
  induction reads with
  | peek address state =>
    intro twin agrees
    exact alike_peek agrees (within List.mem_cons_self)
  | pure value state => exact fun twin agrees => .ok value state.budget agrees
  | throw fault state => exact fun twin agrees => .error fault state.budget agrees
  | charge cycles state => exact fun twin agrees => .ok () (state.budget.charge cycles) agrees
  | registers state =>
    intro twin agrees
    have same : Access.registers ⟨twin, state.budget⟩ =
        .ok state.registers ⟨twin, state.budget⟩ := by rw [registers_eq, agrees.registers]
    rw [same]
    exact .ok state.registers state.budget agrees
  | adjust change state => exact fun twin agrees => .ok () state.budget (agrees.adjust change)
  | poke address value state => exact fun twin agrees => alike_poke agrees address value
  | storeWord address value state => exact fun twin agrees => alike_storeWord agrees address value
  | get blind reads ih =>
    intro twin agrees
    rw [bind_of_ok (get_eq _), bind_of_ok (get_eq _), blind ⟨twin, _⟩ agrees.stackMode]
    exact ih within twin agrees
  | @bind α β access rest value state left first later reads runs reads' ih ih' =>
    intro twin agrees
    have opening := ih (List.append_subset.mp within).1 twin agrees
    rw [runs] at opening
    generalize other : access ⟨twin, state.budget⟩ = result at opening
    cases opening with
    | ok value budget agrees' =>
      rw [bind_of_ok runs, bind_of_ok other]
      exact ih' (List.append_subset.mp within).2 _ agrees'
  | @bindError α β access rest fault state left first reads runs ih =>
    intro twin agrees
    have opening := ih within twin agrees
    rw [runs] at opening
    generalize other : access ⟨twin, state.budget⟩ = result at opening
    cases opening with
    | error fault budget agrees' =>
      rw [bind_of_error runs, bind_of_error other]
      exact .error fault budget agrees'

end Access

/-! ## What an instruction reads -/

namespace Machine

/-- The addresses of the operand bytes of a mode, the first of which is at `site`. -/
def operandReads (site : Int) : AddressingMode → List Int
  | .absolute | .absoluteX | .absoluteY => [site, Word.wrap (site + 1)]
  | .immediate | .zeroPage | .zeroPageX | .indirectX | .indirectY => [site]

/-- The addresses of the two bytes of a pointer, for the modes that have one. -/
def pointerReads (machine : Machine) (site : Int) : AddressingMode → List Int
  | .indirectX =>
      let pointer := Word.lowByte ((machine.byteAt site).toNat + machine.registers.x)
      [pointer, pointer + 1]
  | .indirectY => [((machine.byteAt site).toNat : Int), (machine.byteAt site).toNat + 1]
  | .immediate | .zeroPage | .zeroPageX | .absolute | .absoluteX | .absoluteY => []

/-- The address of the byte that is loaded, for the modes that have one. -/
def dataReads (machine : Machine) (site : Int) : AddressingMode → List Int
  | .immediate => []
  | mode => [machine.target site mode]

/-- The addresses that the instruction at the program counter reads, in order: its opcode, and,
when the opcode has a row, its operand bytes and what a load finds with them. -/
def reads (machine : Machine) : List Int :=
  let pc := machine.registers.pc
  let site := Word.wrap (pc + 1)
  if Addressable pc then
    match machine.row? with
    | none => [pc]
    | some row => [pc] ++
        match row.operation with
        | .lda =>
            operandReads site row.mode ++ machine.pointerReads site row.mode ++
              machine.dataReads site row.mode
        | .jsr => operandReads site .absolute
  else [pc]

theorem pointerReads_skip (machine : Machine) (bytes site : Int) (mode : AddressingMode) :
    (machine.skip bytes).pointerReads site mode = machine.pointerReads site mode := by
  cases mode <;> rfl

theorem dataReads_skip (machine : Machine) (bytes site : Int) (mode : AddressingMode) :
    (machine.skip bytes).dataReads site mode = machine.dataReads site mode := by
  cases mode <;> rfl

end Machine

namespace Access

variable {machine : Machine} {budget : Budget}

theorem reads_next (h : Addressable machine.registers.pc) :
    Reads next ⟨machine, budget⟩ [machine.registers.pc] :=
  .bind (.registers _) registers_eq <| .bind (.peek _ _) (peek_of_addressable h) <|
    .bind (.adjust _ _) rfl (.pure _ _)

theorem reads_fetchByte (h : Addressable machine.registers.pc) :
    Reads fetchByte ⟨machine, budget⟩ [machine.registers.pc] :=
  .bind (reads_next h) (next_of_addressable h) <| .bind (.charge _ _) rfl (.pure _ _)

theorem reads_fetchByte_of_outside (h : ¬ Addressable machine.registers.pc) :
    Reads fetchByte ⟨machine, budget⟩ [machine.registers.pc] :=
  .bindError (.bind (.registers _) registers_eq <|
    .bindError (.peek _ _) (peek_of_not_addressable h)) (next_of_not_addressable h)

theorem reads_fetchWord (h : Addressable machine.registers.pc) :
    Reads fetchWord ⟨machine, budget⟩
      [machine.registers.pc, Word.wrap (machine.registers.pc + 1)] := by
  have second : Addressable (machine.skip 1).registers.pc := Word.addressable_wrap _
  exact .bind (reads_next h) (next_of_addressable h) <|
    .bind (reads_next second) (next_of_addressable second) <|
      .bind (.charge _ _) rfl (.pure _ _)

theorem reads_readByte {address : Int} (h : Addressable address) :
    Reads (readByte address) ⟨machine, budget⟩ [address] :=
  .bind (.peek _ _) (peek_of_addressable h) <| .bind (.charge _ _) rfl (.pure _ _)

theorem reads_readWord {address : Int} (h : Addressable address) (h' : Addressable (address + 1)) :
    Reads (readWord address) ⟨machine, budget⟩ [address, address + 1] :=
  .bind (reads_readByte h) (readByte_of_addressable h) <|
    .bind (reads_readByte h') (readByte_of_addressable h') (.pure _ _)

theorem reads_indexed (base index : Int) : Reads (indexed base index) ⟨machine, budget⟩ [] :=
  .bind (.charge _ _) rfl (.pure _ _)

theorem reads_zeroPageIndexed (zeroPage : UInt8) :
    Reads (zeroPageIndexed zeroPage) ⟨machine, budget⟩ [] :=
  .bind (.charge _ _) rfl <| .bind (.registers _) rfl (.pure _ _)

/-- Two accesses in sequence, the first of which reads nothing and may fault. -/
theorem Reads.after_silent {α β : Type} {access : Access α} {rest : α → Access β} {state : Clocked}
    (silent : Reads access state [])
    (later : ∀ value left, access state = .ok value left → Reads (rest value) left []) :
    Reads (access >>= rest) state [] := by
  cases run : access state with
  | ok value left => exact .bind silent run (later value left run)
  | error fault left => exact .bindError silent run

/-- Two accesses in sequence, the second of which reads nothing. -/
theorem Reads.before_silent {α β : Type} {access : Access α} {rest : α → Access β} {value : α}
    {state left : Clocked} {first : List Int} (reads : Reads access state first)
    (run : access state = .ok value left) (silent : Reads (rest value) left []) :
    Reads (access >>= rest) state first := by
  rw [← List.append_nil first]
  exact .bind reads run silent

/-- Looking at the registers comes before everything and reads nothing. -/
theorem reads_registers_bind {α : Type} {rest : Registers → Access α} {later : List Int}
    (reads : Reads (rest machine.registers) ⟨machine, budget⟩ later) :
    Reads (registers >>= rest) ⟨machine, budget⟩ later :=
  .bind (.registers _) registers_eq reads

/-- A push reads nothing, whether there is room for it or not. -/
theorem reads_pushWord (value : Int) : Reads (pushWord value) ⟨machine, budget⟩ [] := by
  apply Reads.get
  · intro other same
    simp only [same]
  cases machine.stackMode with
  | flat =>
    apply Reads.bind (.registers _) registers_eq
    apply Reads.after_silent (.storeWord _ _ _)
    exact fun _ left _ => .adjust _ left
  | paged =>
    apply Reads.bind (.registers _) registers_eq
    apply Reads.after_silent (.poke _ _ _)
    intro _ left _
    apply Reads.after_silent (.poke _ _ left)
    intro _ left _
    exact .bind (.charge _ left) rfl (.adjust _ _)

/-- With the program counter at the first operand byte, a mode reads its operand, and its pointer
if it has one, to find an address. -/
theorem reads_effectiveAddress (h : Addressable machine.registers.pc) {mode : AddressingMode}
    (ne : mode ≠ .immediate) :
    Reads (effectiveAddress mode) ⟨machine, budget⟩
      (Machine.operandReads machine.registers.pc mode ++
        machine.pointerReads machine.registers.pc mode) := by
  have byte : Reads fetchByte ⟨machine, budget⟩ [machine.registers.pc] := reads_fetchByte h
  have byteRun : fetchByte ⟨machine, budget⟩ = _ := fetchByte_of_addressable h
  have word : Reads fetchWord ⟨machine, budget⟩ _ := reads_fetchWord h
  cases mode with
  | immediate => exact absurd rfl ne
  | zeroPage => exact .bind byte byteRun (.pure _ _)
  | zeroPageX => exact .bind byte byteRun (reads_zeroPageIndexed _)
  | absolute => exact word
  | absoluteX | absoluteY =>
    exact .bind word (fetchWord_of_addressable h) (reads_registers_bind (reads_indexed _ _))
  | indirectX =>
    obtain ⟨low, high⟩ := addressable_lowByte (machine.opcode.toNat + machine.registers.x)
    exact .bind byte byteRun <| .bind (reads_zeroPageIndexed _) (zeroPageIndexed_eq _) <|
      reads_readWord low high
  | indirectY =>
    have low := Machine.addressable_byte machine.opcode
    have high := addressable_byte_succ machine.opcode
    exact .bind byte byteRun <|
      .bind (reads_readWord low high) (readWord_of_addressable low high) <|
        reads_registers_bind (reads_indexed _ _)

/-- A mode reads its operand, its pointer and its datum. -/
theorem reads_readOperand (h : Addressable machine.registers.pc) (mode : AddressingMode) :
    Reads (readOperand mode) ⟨machine, budget⟩
      (Machine.operandReads machine.registers.pc mode ++
        machine.pointerReads machine.registers.pc mode ++
          machine.dataReads machine.registers.pc mode) := by
  by_cases immediate : mode = .immediate
  · subst immediate
    exact reads_fetchByte h
  · have split : readOperand mode = effectiveAddress mode >>= readByte := by
      cases mode <;> first | rfl | exact absurd rfl immediate
    have data : machine.dataReads machine.registers.pc mode =
        [machine.target machine.registers.pc mode] := by
      cases mode <;> first | rfl | exact absurd rfl immediate
    rw [split, data]
    exact .bind (reads_effectiveAddress h immediate) (effectiveAddress_eq h immediate) <|
      reads_readByte (machine.addressable_target _ _)

/-- A load after its opcode was fetched reads what its mode finds. -/
theorem reads_perform_lda (mode : AddressingMode) :
    let site := Word.wrap (machine.registers.pc + 1)
    Reads (perform .lda mode) ⟨machine.skip 1, budget⟩
      (Machine.operandReads site mode ++ machine.pointerReads site mode ++
        machine.dataReads site mode) := by
  intro site
  have operand : Addressable (machine.skip 1).registers.pc := Word.addressable_wrap _
  have reads : Reads (readOperand mode) ⟨machine.skip 1, budget⟩ _ := reads_readOperand operand mode
  rw [Machine.pointerReads_skip, Machine.dataReads_skip] at reads
  exact reads.before_silent (readOperand_eq operand mode) (.adjust _ _)

/-- A call after its opcode was fetched reads its operand and nothing else. -/
theorem reads_perform_jsr (mode : AddressingMode) :
    Reads (perform .jsr mode) ⟨machine.skip 1, budget⟩
      (Machine.operandReads (Word.wrap (machine.registers.pc + 1)) .absolute) := by
  have operand : Addressable (machine.skip 1).registers.pc := Word.addressable_wrap _
  refine (reads_fetchWord operand).before_silent (fetchWord_of_addressable operand) ?_
  refine reads_registers_bind ((reads_pushWord _).after_silent fun _ left _ => ?_)
  exact (Reads.adjust _ left).after_silent fun _ left _ => .charge 1 left

/-- **What an instruction reads.**  The case splits are those of `Machine.reads`. -/
theorem reads_instruction (machine : Machine) (budget : Budget) :
    Reads instruction ⟨machine, budget⟩ machine.reads := by
  rw [Machine.reads, instruction]
  apply reads_registers_bind
  by_cases inside : Addressable machine.registers.pc
  · rw [if_pos inside]
    have opening : Reads fetchByte ⟨machine, budget⟩ [machine.registers.pc] :=
      reads_fetchByte inside
    cases found : machine.row? with
    | none =>
      refine opening.before_silent (fetchByte_of_addressable inside) ?_
      rw [show Instruction.ofOpcode? machine.opcode.toNat = none from found]
      exact .throw _ _
    | some row =>
      refine .bind opening (fetchByte_of_addressable inside) ?_
      rw [show Instruction.ofOpcode? machine.opcode.toNat = some row from found]
      dsimp only
      cases row.operation with
      | lda => exact reads_perform_lda row.mode
      | jsr => exact reads_perform_jsr row.mode
  · rw [if_neg inside]
    exact .bindError (reads_fetchByte_of_outside inside) (fetchByte_of_not_addressable inside)

end Access

/-! ## What an instruction writes -/

/-- The memory with some bytes written into it, in order. -/
def Memory.overwritten (memory : Memory) (writes : List (Nat × UInt8)) : Memory :=
  writes.foldl (fun memory write => memory.set write.1 write.2) memory

theorem Memory.overwritten_append (memory : Memory) (first later : List (Nat × UInt8)) :
    memory.overwritten (first ++ later) = (memory.overwritten first).overwritten later :=
  List.foldl_append

/-- A cell that is written, or holds the same byte before, holds the same byte after. -/
theorem Memory.get_overwritten_congr {writes : List (Nat × UInt8)} {cell : Nat}
    (bounded : ∀ write ∈ writes, write.1 < size) (small : cell < size) (memory memory' : Memory)
    (same : cell ∈ writes.map Prod.fst ∨ memory'.get cell = memory.get cell) :
    (memory'.overwritten writes).get cell = (memory.overwritten writes).get cell := by
  induction writes generalizing memory memory' with
  | nil => exact same.resolve_left List.not_mem_nil
  | cons write rest ih =>
    refine ih (fun later member => bounded later (List.mem_cons_of_mem write member)) _ _ ?_
    by_cases here : cell = write.1
    · exact .inr (by rw [here, get_set_self, get_set_self])
    · have bound := bounded write List.mem_cons_self
      rw [get_set_of_ne _ _ bound small here, get_set_of_ne _ _ bound small here]
      exact same.imp_left fun member => (List.mem_cons.mp member).resolve_left here

theorem Memory.get_overwritten_of_notMem {writes : List (Nat × UInt8)} {cell : Nat}
    (bounded : ∀ write ∈ writes, write.1 < size) (small : cell < size) (memory : Memory)
    (apart : cell ∉ writes.map Prod.fst) :
    (memory.overwritten writes).get cell = memory.get cell := by
  induction writes generalizing memory with
  | nil => rfl
  | cons write rest ih =>
    rw [List.map_cons, List.mem_cons, not_or] at apart
    have later := ih (fun later member => bounded later (List.mem_cons_of_mem write member))
      (memory.set write.1 write.2) apart.2
    exact later.trans (get_set_of_ne _ _ (bounded write List.mem_cons_self) small apart.1)

/-- The bytes that an instruction writes, each with its cell, in order: those of the return address
of a call. -/
def Entry.writes (entry : Entry) : List (Nat × UInt8) :=
  let word := Word.wrap (entry.before.registers.pc + 2)
  if entry.isCall then
    [((entry.before.stackCell 0).toNat, .ofInt word),
      ((entry.before.stackCell 1).toNat, .ofInt (word / 256))]
  else []

namespace Machine

variable {machine twin left : Machine} {addresses : List Int} {cycles spent : Int} {fault : Fault}

/-- An instruction changes the memory by what it writes, into cells that exist. -/
theorem memory_of_effect (effect : machine.effect = .completed left spent) :
    left.memory = machine.memory.overwritten (Entry.writes ⟨machine, left⟩) ∧
      ∀ write ∈ Entry.writes ⟨machine, left⟩, write.1 < Memory.size := by
  obtain ⟨-, row, found, -, ⟨load, rfl⟩ | ⟨jump, room, rfl⟩⟩ := effect_eq_completed effect
  · rw [Entry.writes, Entry.isCall_of_load found load]
    exact ⟨rfl, nofun⟩
  · rw [Entry.writes, Entry.isCall_of_call found jump]
    obtain ⟨low, high⟩ := machine.addressable_stackCell room
    refine ⟨rfl, ?_⟩
    simp only [if_true, List.forall_mem_cons]
    exact ⟨Memory.toNat_lt_size low, Memory.toNat_lt_size high, nofun⟩

/-! ## Whole runs -/

/-- The addresses that a run without a hook reads, in order, the instruction it faults on
included. -/
def readsOver (machine : Machine) (cycles : Int) : List Int :=
  (machine.journal none cycles).flatMap (fun entry => entry.before.reads) ++
    match (machine.execute none cycles).outcome with
    | .faulted _ => (machine.reached (machine.journal none cycles)).reads
    | .exhausted _ | .stopped _ => []

/-- The bytes that a run without a hook writes, each with its cell, in order. -/
def writes (machine : Machine) (cycles : Int) : List (Nat × UInt8) :=
  (machine.journal none cycles).flatMap Entry.writes

theorem readsOver_of_fault (pos : 0 < cycles)
    (effect : machine.effect = .faulted fault left spent) :
    machine.readsOver cycles = machine.reads := by
  rw [readsOver, journal_of_fault effect, execute_of_fault pos effect]
  rfl

theorem readsOver_of_effect (pos : 0 < cycles) (effect : machine.effect = .completed left spent) :
    machine.readsOver cycles = machine.reads ++ left.readsOver (cycles - spent) := by
  rw [readsOver, readsOver, journal_of_effect pos effect, execute_of_effect pos effect,
    reached_cons, List.flatMap_cons, List.append_assoc]
  cases outcome : (left.execute none (cycles - spent)).outcome <;>
    simp only [Run.resumed, outcome, Outcome.after]

/-- A run changes the memory by what it writes, into cells that exist. -/
theorem memory_of_run (machine : Machine) (cycles : Int) :
    (machine.execute none cycles).machine.memory =
        machine.memory.overwritten (machine.writes cycles) ∧
      ∀ write ∈ machine.writes cycles, write.1 < Memory.size := by
  induction machine, cycles using bare_run_induction with
  | exhausted machine cycles le =>
    rw [writes, execute_of_nonpos machine none le, journal_of_nonpos machine none le]
    exact ⟨rfl, nofun⟩
  | faulted machine cycles fault left spent pos effect =>
    rw [writes, execute_of_fault pos effect, journal_of_fault effect]
    exact ⟨by rw [eq_of_fault effect]; rfl, nofun⟩
  | completed machine cycles left spent pos effect ih =>
    obtain ⟨memory, bounded⟩ := memory_of_effect effect
    rw [writes, execute_of_effect pos effect, journal_of_effect pos effect, List.flatMap_cons,
      Memory.overwritten_append, ← memory]
    exact ⟨ih.1, List.forall_mem_append.mpr ⟨bounded, ih.2⟩⟩

/-- Where an opcode is read, it is the same. -/
theorem AgreesOn.opcode (agrees : machine.AgreesOn addresses twin)
    (inside : Addressable machine.registers.pc) (listed : machine.registers.pc ∈ addresses) :
    twin.opcode = machine.opcode := by
  have same := agrees.memory _ listed
  have other : Addressable twin.registers.pc := by rwa [agrees.registers]
  rw [Memory.read_of_addressable _ inside, Memory.read_of_addressable _ inside] at same
  rw [Machine.opcode, Machine.opcode, twin.byteAt_of_addressable other,
    machine.byteAt_of_addressable inside, agrees.registers]
  exact Except.ok.inj same

theorem pc_mem_reads (machine : Machine) : machine.registers.pc ∈ machine.reads := by
  rw [reads]
  split
  · split
    · exact List.mem_singleton_self _
    · exact List.mem_cons_self
  · exact List.mem_singleton_self _

/-- An effect is known from what it comes to on a budget. -/
theorem Effect.result_injective (budget : Budget) : Function.Injective (Effect.result budget) := by
  rintro (⟨left, spent⟩ | ⟨fault, left, spent⟩) (⟨left', spent'⟩ | ⟨fault', left', spent'⟩) same
  · simp only [result, Budget.charge, EStateM.Result.ok.injEq, Clocked.mk.injEq,
      Budget.mk.injEq] at same
    obtain ⟨-, rfl, -, charged⟩ := same
    rw [show spent = spent' by omega]
  · cases same
  · cases same
  · simp only [result, Budget.charge, EStateM.Result.error.injEq, Clocked.mk.injEq,
      Budget.mk.injEq] at same
    obtain ⟨rfl, rfl, -, charged⟩ := same
    rw [show spent = spent' by omega]

/-- **Machines that agree on what an instruction reads** complete it alike or fault alike, and go
on agreeing. -/
theorem AgreesOn.of_effect (agrees : machine.AgreesOn addresses twin)
    (within : machine.reads ⊆ addresses) :
    (∀ left spent, machine.effect = .completed left spent →
        ∃ left', twin.effect = .completed left' spent ∧ left.AgreesOn addresses left') ∧
      ∀ fault left spent, machine.effect = .faulted fault left spent →
        ∃ left', twin.effect = .faulted fault left' spent ∧ left.AgreesOn addresses left' := by
  have alike := (Access.reads_instruction machine (.ofRequest 0)).alike within twin agrees
  rw [Access.instruction_eq, Access.instruction_eq] at alike
  generalize other : twin.effect.result (.ofRequest 0) = result at alike
  constructor
  · intro left spent effect
    rw [effect] at alike
    cases alike with
    | @ok _ left' _ _ agrees' =>
      exact ⟨left', Effect.result_injective (.ofRequest 0) other, agrees'⟩
  · intro fault left spent effect
    rw [effect] at alike
    cases alike with
    | @error _ left' _ _ agrees' =>
      exact ⟨left', Effect.result_injective (.ofRequest 0) other, agrees'⟩

/-- Machines that complete an instruction alike also write alike. -/
theorem AgreesOn.seen (agrees : machine.AgreesOn addresses twin)
    (inside : Addressable machine.registers.pc) (listed : machine.registers.pc ∈ addresses)
    (left left' : Machine) :
    Entry.site ⟨twin, left'⟩ = Entry.site ⟨machine, left⟩ ∧
      Entry.writes ⟨twin, left'⟩ = Entry.writes ⟨machine, left⟩ := by
  have opcode := agrees.opcode inside listed
  have registers := agrees.registers
  have call : Entry.isCall ⟨twin, left'⟩ = Entry.isCall ⟨machine, left⟩ := by
    simp only [Entry.isCall, Machine.row?, opcode]
  have cells (offset : Int) : twin.stackCell offset = machine.stackCell offset := by
    simp only [stackCell, agrees.stackMode, registers]
  constructor
  · simp only [Entry.site, Machine.site, opcode, registers]
  · simp only [Entry.writes, call, cells, registers]

/-- Machines that agree on what the first of them is going to read run in step, and write the same
bytes into the same cells. -/
theorem lockstep_agreeing :
    Lockstep (fun entry => (entry.site, entry.writes))
      (fun cycles machine twin => machine.AgreesOn (machine.readsOver cycles) twin)
      (fun machine twin => machine.AgreesOn [] twin) where
  exhausted := by
    rintro cycles machine twin - agrees
    exact agrees.mono (List.nil_subset _)
  completed := by
    intro cycles machine twin left spent pos agrees effect
    rw [readsOver_of_effect pos effect] at agrees
    obtain ⟨left', effect', agrees'⟩ :=
      (agrees.of_effect (List.subset_append_left _ _)).1 left spent effect
    obtain ⟨inside, -⟩ := effect_eq_completed effect
    have listed := List.mem_append_left (left.readsOver (cycles - spent)) machine.pc_mem_reads
    obtain ⟨site, writes⟩ := agrees.seen inside listed left left'
    exact ⟨left', effect', Prod.ext site writes, agrees'.mono (List.subset_append_right _ _)⟩
  faulted := by
    intro cycles machine twin fault left spent pos agrees effect
    rw [readsOver_of_fault pos effect] at agrees
    obtain ⟨left', effect', agrees'⟩ :=
      (agrees.of_effect (List.Subset.refl _)).2 fault left spent effect
    exact ⟨left', effect', agrees'.mono (List.nil_subset _)⟩

/-- **A run depends only on the cells it reads.**  Exchange the memory of a machine for one that
answers alike at the addresses that its run reads.  The run executes the same instructions at the
same addresses, ends in the same way and with the same registers, and writes the same bytes into
the same cells; every other cell keeps the byte it had in the memory that the run was given. -/
theorem execute_agreeing (machine : Machine) (memory : Memory) (cycles : Int)
    (agree : ∀ address ∈ machine.readsOver cycles,
      memory.read address = machine.memory.read address) :
    let twin : Machine := { machine with memory }
    let run := machine.execute none cycles
    let other := twin.execute none cycles
    let writes := machine.writes cycles
    (twin.journal none cycles).map Entry.site = (machine.journal none cycles).map Entry.site ∧
      other.outcome = run.outcome ∧ other.machine.registers = run.machine.registers ∧
      twin.writes cycles = writes ∧
      run.machine.memory = machine.memory.overwritten writes ∧
      other.machine.memory = memory.overwritten writes ∧
      ∀ cell < Memory.size,
        (cell ∈ writes.map Prod.fst →
          other.machine.memory.get cell = run.machine.memory.get cell) ∧
        (cell ∉ writes.map Prod.fst →
          run.machine.memory.get cell = machine.memory.get cell ∧
            other.machine.memory.get cell = memory.get cell) := by
  intro twin run other writes
  obtain ⟨seen, outcome, final⟩ := lockstep_agreeing.run machine cycles twin ⟨rfl, rfl, agree⟩
  have sites := congrArg (List.map Prod.fst) seen
  have written := congrArg (List.flatMap Prod.snd) seen
  rw [List.map_map, List.map_map] at sites
  rw [List.flatMap_map, List.flatMap_map] at written
  have written : twin.writes cycles = writes := written
  obtain ⟨changed, bounded⟩ := machine.memory_of_run cycles
  obtain ⟨changed', -⟩ := twin.memory_of_run cycles
  rw [written] at changed'
  refine ⟨sites, outcome, final.registers, written, changed, changed', fun cell small => ⟨?_, ?_⟩⟩
  · intro member
    rw [changed, changed']
    exact Memory.get_overwritten_congr bounded small _ _ (.inl member)
  · intro apart
    rw [changed, changed']
    exact ⟨Memory.get_overwritten_of_notMem bounded small _ apart,
      Memory.get_overwritten_of_notMem bounded small _ apart⟩

/-- A load through a pointer and a call.  The other memory differs in a cell that the call writes
and in one that nobody touches. -/
theorem execute_agreeing_pointer :
    let machine := holding .flat [0xB1, 0x10, 0x20]
    let memory := (machine.memory.set 0x0100 7).set 0x1234 9
    let other := { machine with memory }.execute none 11
    let reads := [0xFFFC, 0xFFFD, 0x0010, 0x0011, 0x0000, 0xFFFE, 0xFFFF, 0x0000]
    machine.readsOver 11 = reads ∧
      (∀ address ∈ reads, memory.read address = machine.memory.read address) ∧
      machine.writes 11 = [(0x0100, 0x00), (0x0101, 0x00)] ∧
      other.outcome = .exhausted 11 ∧
      other.machine.memory.get 0x0100 = 0 ∧ other.machine.memory.get 0x1234 = 9 := by
  intro machine memory other reads
  have read : machine.readsOver 11 = reads := by decide +kernel
  have written : machine.writes 11 = [(0x0100, 0x00), (0x0101, 0x00)] := by decide +kernel
  have cells : ∀ address ∈ reads, Addressable address ∧
      memory.get address.toNat = machine.memory.get address.toNat := by decide +kernel
  have agree : ∀ address ∈ reads, memory.read address = machine.memory.read address := by
    intro address member
    obtain ⟨inside, same⟩ := cells address member
    rw [Memory.read_of_addressable _ inside, Memory.read_of_addressable _ inside, same]
  have ends : (machine.execute none 11).outcome = .exhausted 11 := by decide +kernel
  have pushed : (machine.execute none 11).machine.memory.get 0x0100 = 0 := by decide +kernel
  obtain ⟨-, outcome, -, -, -, -, cells⟩ :=
    execute_agreeing machine memory 11 (by rw [read]; exact agree)
  rw [written] at cells
  refine ⟨read, agree, written, outcome.trans ends, ?_, ?_⟩
  · exact ((cells 0x0100 (by decide)).1 (by decide)).trans pushed
  · exact ((cells 0x1234 (by decide)).2 (by decide)).2.trans (by decide +kernel)

end Machine

end Machine6502
