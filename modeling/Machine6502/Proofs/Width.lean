import Machine6502.Proofs.Cells
import Machine6502.Proofs.Journal
import Machine6502.Proofs.Session

/-!
# Registers keep their width

A register holds an integer, and its type does not keep it small.  The setters do: each of them
cuts off what its register has no room for.  So the width of the registers is a property of the
whole interface.  It holds as long as every store goes through a setter, on every path through a
request, and also on the paths that end in a fault half-way.  The one request that goes around the
setters restores a register file as it was given.

* `Registers.InWidth` — every register holds a value that its setter can store.
* `Access.KeepsWidth` — an access keeps the registers in their width, however it ends.
* `Machine.inWidth_of_run` — a run does, with any hook.
* `Request.Masks` — the request restores no register file.
* `Bench.inWidth_of_session` — all registers and all cells of a bench, after any session of such
  requests.

For memories the width is a matter of type: a bank is a tree of bytes of a fixed depth.
-/

namespace Machine6502

open Memory (Addressable)

/-! ## Cells -/

namespace Memory

/-- What an address reads is what stands there in the list of all cells. -/
theorem read_eq_ok_iff (memory : Memory) {address : Int} {byte : UInt8} :
    memory.read address = .ok byte ↔
      0 ≤ address ∧ (memory.block 0 65536)[address.toNat]? = some byte := by
  rw [block, List.getElem?_map]
  by_cases inside : Addressable address
  · have small := inside.small
    rw [read, cellOf_of_inRange inside.nonneg small, List.getElem?_range (by omega),
      Option.map_some, Nat.zero_add]
    show (.ok (memory.get address.toNat) : Except Fault UInt8) = .ok byte ↔ _
    rw [Except.ok.injEq, Option.some.injEq, and_iff_right inside.nonneg]
  · rw [memory.read_of_not_addressable inside]
    simp only [reduceCtorEq, false_iff]
    rintro ⟨nonneg, found⟩
    have beyond : 65536 ≤ address.toNat := by
      rw [addressable_iff] at inside
      omega
    rw [List.getElem?_eq_none (by rwa [List.length_range])] at found
    cases found

end Memory

/-! ## Register files -/

/-- Every register holds a value that its setter can store.  No setter of the status sets bit
five. -/
structure Registers.InWidth (registers : Registers) : Prop extends Fitted registers where
  unused : registers.status.unused = false

/-- A status whose bit five is clear is a byte without bits outside `$DF`. -/
theorem Status.toByte_and_of_unused {status : Status} (unused : status.unused = false) :
    status.toByte &&& 0xDF = status.toByte := by
  obtain ⟨c, z, i, d, b, u, v, n⟩ := status
  cases unused
  revert c z i d b v n
  decide

namespace Registers.InWidth

variable {registers : Registers}

theorem powerOn : ({} : Registers).InWidth :=
  ⟨⟨by decide, by decide, by decide, by decide, by decide⟩, rfl⟩

theorem setPc (h : registers.InWidth) (value : Int) : (registers.setPc value).InWidth :=
  ⟨⟨Word.addressable_wrap value, h.sp, h.a, h.x, h.y⟩, h.unused⟩

theorem setSp (h : registers.InWidth) (value : Int) : (registers.setSp value).InWidth :=
  ⟨⟨h.pc, Word.addressable_wrap value, h.a, h.x, h.y⟩, h.unused⟩

theorem setA (h : registers.InWidth) (value : Int) : (registers.setA value).InWidth :=
  ⟨⟨h.pc, h.sp, ⟨Word.lowByte_nonneg value, Word.lowByte_lt value⟩, h.x, h.y⟩, h.unused⟩

theorem setX (h : registers.InWidth) (value : Int) : (registers.setX value).InWidth :=
  ⟨⟨h.pc, h.sp, h.a, ⟨Word.lowByte_nonneg value, Word.lowByte_lt value⟩, h.y⟩, h.unused⟩

theorem setY (h : registers.InWidth) (value : Int) : (registers.setY value).InWidth :=
  ⟨⟨h.pc, h.sp, h.a, h.x, ⟨Word.lowByte_nonneg value, Word.lowByte_lt value⟩⟩, h.unused⟩

theorem setStatus (h : registers.InWidth) (value : Int) : (registers.setStatus value).InWidth :=
  ⟨⟨h.pc, h.sp, h.a, h.x, h.y⟩, rfl⟩

theorem set (h : registers.InWidth) (register : Register) (value : Int) :
    (registers.set register value).InWidth := by
  cases register with
  | pc => exact h.setPc value
  | sp => exact h.setSp value
  | a => exact h.setA value
  | x => exact h.setX value
  | y => exact h.setY value
  | status => exact h.setStatus value

/-- No flag is bit five. -/
theorem setFlag (h : registers.InWidth) (flag : Flag) (value : Bool) :
    (registers.setFlag flag value).InWidth := by
  refine ⟨⟨h.pc, h.sp, h.a, h.x, h.y⟩, ?_⟩
  cases flag <;> exact h.unused

theorem flagAccumulator (h : registers.InWidth) : registers.flagAccumulator.InWidth :=
  ⟨⟨h.pc, h.sp, h.a, h.x, h.y⟩, h.unused⟩

end Registers.InWidth

/-! ## Accesses -/

namespace Access

variable {α β : Type}

/-- The state in which an access ends, with a value or with a fault. -/
def final : EStateM.Result Fault Clocked α → Clocked
  | .ok _ state => state
  | .error _ state => state

/-- However the access ends, registers that were in their width are still. -/
def KeepsWidth (access : Access α) : Prop :=
  ∀ state : Clocked, state.registers.InWidth → (final (access state)).registers.InWidth

/-- Where the registers are not touched there is nothing to show. -/
theorem keepsWidth_of_untouched {access : Access α}
    (untouched : ∀ state : Clocked, (final (access state)).registers = state.registers) :
    KeepsWidth access := by
  intro state h
  rw [untouched]
  exact h

theorem KeepsWidth.bind {access : Access α} {rest : α → Access β} (first : KeepsWidth access)
    (later : ∀ value, KeepsWidth (rest value)) : KeepsWidth (access >>= rest) := by
  intro state h
  have between := first state h
  cases run : access state with
  | ok value left =>
    rw [run] at between
    rw [bind_of_ok run]
    exact later value left between
  | error fault left =>
    rw [run] at between
    rw [bind_of_error run]
    exact between

theorem keepsWidth_pure (value : α) : KeepsWidth (pure value : Access α) :=
  fun _ h => h

theorem keepsWidth_throw (fault : Fault) : KeepsWidth (throw fault : Access α) :=
  fun _ h => h

theorem keepsWidth_charge (cycles : Int) : KeepsWidth (charge cycles) :=
  fun _ h => h

theorem keepsWidth_registers : KeepsWidth registers :=
  fun _ h => h

theorem keepsWidth_get : KeepsWidth (get : Access Clocked) :=
  fun _ h => h

theorem keepsWidth_adjust {change : Registers → Registers}
    (keeps : ∀ registers : Registers, registers.InWidth → (change registers).InWidth) :
    KeepsWidth (adjust change) :=
  fun state h => keeps state.registers h

theorem keepsWidth_peek (address : Int) : KeepsWidth (peek address) := by
  apply keepsWidth_of_untouched
  intro state
  unfold peek
  split <;> rfl

theorem keepsWidth_poke (address value : Int) : KeepsWidth (poke address value) := by
  apply keepsWidth_of_untouched
  intro state
  unfold poke
  split <;> rfl

theorem keepsWidth_storeWord (address value : Int) : KeepsWidth (storeWord address value) := by
  apply keepsWidth_of_untouched
  intro state
  unfold storeWord
  split <;> rfl

theorem keepsWidth_next : KeepsWidth next :=
  keepsWidth_registers.bind fun _ => (keepsWidth_peek _).bind fun _ =>
    (keepsWidth_adjust fun _ h => h.setPc _).bind fun _ => keepsWidth_pure _

theorem keepsWidth_fetchByte : KeepsWidth fetchByte :=
  keepsWidth_next.bind fun _ => (keepsWidth_charge 1).bind fun _ => keepsWidth_pure _

theorem keepsWidth_fetchWord : KeepsWidth fetchWord :=
  keepsWidth_next.bind fun _ => keepsWidth_next.bind fun _ =>
    (keepsWidth_charge 2).bind fun _ => keepsWidth_pure _

theorem keepsWidth_readByte (address : Int) : KeepsWidth (readByte address) :=
  (keepsWidth_peek address).bind fun _ => (keepsWidth_charge 1).bind fun _ => keepsWidth_pure _

theorem keepsWidth_readWord (address : Int) : KeepsWidth (readWord address) :=
  (keepsWidth_readByte address).bind fun _ =>
    (keepsWidth_readByte (address + 1)).bind fun _ => keepsWidth_pure _

/-- A push that faults has not moved the stack pointer, and one that succeeds has moved it with the
setter. -/
theorem keepsWidth_pushWord (value : Int) : KeepsWidth (pushWord value) := by
  refine keepsWidth_get.bind fun state => ?_
  cases state.stackMode with
  | flat =>
    exact keepsWidth_registers.bind fun _ => (keepsWidth_storeWord _ _).bind fun _ =>
      keepsWidth_adjust fun _ h => h.setSp _
  | paged =>
    exact keepsWidth_registers.bind fun _ => (keepsWidth_poke _ _).bind fun _ =>
      (keepsWidth_poke _ _).bind fun _ => (keepsWidth_charge 2).bind fun _ =>
        keepsWidth_adjust fun _ h => h.setSp _

theorem keepsWidth_indexed (base index : Int) : KeepsWidth (indexed base index) :=
  (keepsWidth_charge _).bind fun _ => keepsWidth_pure _

theorem keepsWidth_zeroPageIndexed (zeroPage : UInt8) : KeepsWidth (zeroPageIndexed zeroPage) :=
  (keepsWidth_charge 1).bind fun _ => keepsWidth_registers.bind fun _ => keepsWidth_pure _

theorem keepsWidth_effectiveAddress (mode : AddressingMode) :
    KeepsWidth (effectiveAddress mode) := by
  cases mode with
  | immediate => exact keepsWidth_throw _
  | zeroPage => exact keepsWidth_fetchByte.bind fun _ => keepsWidth_pure _
  | zeroPageX => exact keepsWidth_fetchByte.bind fun _ => keepsWidth_zeroPageIndexed _
  | absolute => exact keepsWidth_fetchWord
  | absoluteX | absoluteY =>
    exact keepsWidth_fetchWord.bind fun _ => keepsWidth_registers.bind fun _ =>
      keepsWidth_indexed _ _
  | indirectX =>
    exact keepsWidth_fetchByte.bind fun _ => (keepsWidth_zeroPageIndexed _).bind fun _ =>
      keepsWidth_readWord _
  | indirectY =>
    exact keepsWidth_fetchByte.bind fun _ => (keepsWidth_readWord _).bind fun _ =>
      keepsWidth_registers.bind fun _ => keepsWidth_indexed _ _

theorem keepsWidth_readOperand (mode : AddressingMode) : KeepsWidth (readOperand mode) := by
  cases mode with
  | immediate => exact keepsWidth_fetchByte
  | zeroPage | zeroPageX | absolute | absoluteX | absoluteY | indirectX | indirectY =>
    exact (keepsWidth_effectiveAddress _).bind fun _ => keepsWidth_readByte _

/-- **An access that is requested keeps the width**, also one that faults half-way. -/
theorem keepsWidth_request (request : AccessRequest) : KeepsWidth request.perform := by
  cases request with
  | fetchByte => exact keepsWidth_fetchByte.bind fun _ => keepsWidth_pure _
  | fetchWord => exact keepsWidth_fetchWord.bind fun _ => keepsWidth_pure _
  | readByte address => exact (keepsWidth_readByte address).bind fun _ => keepsWidth_pure _
  | readWord address => exact (keepsWidth_readWord address).bind fun _ => keepsWidth_pure _
  | pushWord value => exact (keepsWidth_pushWord value).bind fun _ => keepsWidth_pure _
  | effectiveAddress mode =>
    exact (keepsWidth_effectiveAddress mode).bind fun _ => keepsWidth_pure _
  | readOperand mode => exact (keepsWidth_readOperand mode).bind fun _ => keepsWidth_pure _

end Access

/-! ## Runs -/

namespace Machine

variable {machine left : Machine} {hook hook' : Option Hook} {spent : Int} {fault : Fault}

/-- A completed instruction stores with the setters. -/
theorem inWidth_of_effect (h : machine.registers.InWidth)
    (effect : machine.effect = .completed left spent) : left.registers.InWidth := by
  obtain ⟨-, row, -, -, ⟨-, rfl⟩ | ⟨-, -, rfl⟩⟩ := effect_eq_completed effect
  · exact ((h.setPc _).setA _).flagAccumulator
  · exact ((h.setPc _).setSp _).setPc _

/-- An instruction that faults has moved the program counter at most. -/
theorem inWidth_of_fault (h : machine.registers.InWidth)
    (effect : machine.effect = .faulted fault left spent) : left.registers.InWidth := by
  obtain ⟨-, -, rfl⟩ | ⟨-, -, -, rfl⟩ | ⟨-, -, -, -, rfl⟩ := effect_eq_faulted effect
  · exact h
  · exact h.setPc _
  · exact h.setPc _

end Machine

/-- The jumps of a hook store with the setter of the program counter. -/
theorem Hook.inWidth_jumpAt (hook : Hook) (pc : Int) {registers : Registers}
    (h : registers.InWidth) : (hook.jumpAt pc registers).InWidth := by
  unfold jumpAt
  induction hook.jumps.filter (fun jump => jump.site == pc) generalizing registers with
  | nil => exact h
  | cons jump rest ih => exact ih (h.setPc jump.target)

/-- The state that a consultation hands on has its registers in their width. -/
def Consultation.InWidth : Consultation → Prop
  | .proceed state _ _ | .fault _ state _ _ => state.registers.InWidth
  | .stop _ => True

theorem Clocked.inWidth_of_consult {state : Clocked} (h : state.registers.InWidth)
    (hook : Option Hook) : (state.consult hook).InWidth := by
  cases hook with
  | none => exact h
  | some hook =>
    unfold consult
    dsimp only
    split
    · exact h
    · split
      · trivial
      · split
        · exact h
        · exact hook.inWidth_jumpAt _ h

namespace Machine

/-- The machine that a pass leaves has its registers in their width. -/
def Pass.InWidth : Pass → Prop
  | .completed _ left _ _ _ | .faulted _ left _ _ _ => left.registers.InWidth
  | .stopped _ => True

theorem inWidth_of_pass {machine : Machine} (h : machine.registers.InWidth) (hook : Option Hook) :
    (machine.pass hook).InWidth := by
  have asked : (Clocked.consult ⟨machine, .ofRequest 0⟩ hook).InWidth :=
    Clocked.inWidth_of_consult h hook
  unfold pass
  generalize Clocked.consult ⟨machine, .ofRequest 0⟩ hook = consultation at asked ⊢
  cases consultation with
  | stop call => trivial
  | fault fault state hook call => exact asked
  | proceed state hook call =>
    dsimp only
    cases effect : state.toMachine.effect with
    | completed left spent => exact inWidth_of_effect asked effect
    | faulted fault left spent => exact inWidth_of_fault asked effect

/-- **A run keeps the registers in their width**, whatever its hook writes and wherever it jumps,
and however the run ends. -/
theorem inWidth_of_run (machine : Machine) (hook : Option Hook) (cycles : Int) :
    machine.registers.InWidth → (machine.execute hook cycles).machine.registers.InWidth := by
  induction machine, hook, cycles using run_induction with
  | exhausted machine hook cycles le =>
    rw [execute_of_nonpos machine hook le]
    exact id
  | stopped machine hook cycles call pos passes =>
    rw [execute_of_stopped pos passes]
    exact id
  | faulted machine hook cycles fault left spent hook' call pos passes =>
    intro h
    have kept := inWidth_of_pass h hook
    rw [passes] at kept
    rw [execute_of_faulted pos passes]
    exact kept
  | completed machine hook cycles found left spent hook' call pos passes ih =>
    intro h
    have kept := inWidth_of_pass h hook
    rw [passes] at kept
    rw [execute_of_completed pos passes]
    exact ih kept

end Machine

/-! ## Sessions -/

/-- The request does not restore a register file. -/
def Request.Masks : Request → Prop
  | .processor _ (.restore _) => False
  | _ => True

instance (request : Request) : Decidable request.Masks := by
  unfold Request.Masks
  split <;> infer_instance

namespace Bench

/-- Every processor has its registers in their width. -/
def InWidth (bench : Bench) : Prop :=
  ∀ name processor, bench.processors.find? name = some processor → processor.registers.InWidth

variable {bench : Bench} {name : String} {processor : Processor}

theorem InWidth.setProcessor (h : bench.InWidth) (kept : processor.registers.InWidth) :
    (bench.setProcessor name processor).InWidth := by
  intro other found is
  by_cases same : other = name
  · rw [same, find?_setProcessor_self] at is
    cases is
    exact kept
  · rw [find?_setProcessor_of_ne bench processor same] at is
    exact h other found is

theorem InWidth.setMachine (h : bench.InWidth) {machine : Machine}
    (kept : machine.registers.InWidth) (hook : Option Hook) :
    (bench.setMachine name processor machine hook).InWidth :=
  -- The memory that was replaced has no part in it.
  InWidth.setProcessor (show (bench.setMemory processor.place machine.memory).InWidth from h) kept

theorem inWidth_initial (stackMode : StackMode) (cycles : Int) :
    (initial stackMode cycles).InWidth := by
  have none : (({} : Bench).addMemory "m").InWidth := by
    intro name processor found
    simp only [addMemory, Directory.find?, List.lookup_nil, reduceCtorEq] at found
  have one : ((({} : Bench).addMemory "m").setProcessor "c" { stackMode, place := 0 }).InWidth :=
    none.setProcessor .powerOn
  intro name processor found
  exact one name processor found

/-- Each request to a processor that does not restore its registers keeps the width. -/
theorem InWidth.of_performProcessor (h : bench.InWidth)
    (found : bench.processors.find? name = some processor) {request : ProcessorRequest}
    (masks : ∀ registers, request ≠ .restore registers) {answered : Reply × Bench}
    (answers : bench.performProcessor name processor request = .ok answered) :
    answered.2.InWidth := by
  have kept := h name processor found
  cases request with
  | reset memory =>
    cases memory with
    | none =>
      cases answers
      exact h.setMachine .powerOn _
    | some other =>
      obtain ⟨place, -, answers⟩ := Checked.bind_eq_ok.mp answers
      cases answers
      exact h.setMachine .powerOn _
  | setRegister register value =>
    cases answers
    exact h.setProcessor (kept.set register value)
  | setFlag flag value =>
    cases answers
    exact h.setProcessor (kept.setFlag flag value)
  | restore registers => exact absurd rfl (masks registers)
  | flagAccumulator =>
    cases answers
    exact h.setProcessor kept.flagAccumulator
  | setHook hook =>
    cases answers
    exact h.setProcessor kept
  | execute cycles =>
    cases answers
    exact h.setMachine (Machine.inWidth_of_run (bench.machineOf processor) _ cycles kept) _
  | step =>
    cases answers
    exact h.setMachine (Machine.inWidth_of_run (bench.machineOf processor) _ 1 kept) _
  | compare other =>
    obtain ⟨registers, -, answers⟩ := Checked.bind_eq_ok.mp answers
    cases answers
    exact h
  | boundMemory | getRegister | getFlag | registers | registerLine | snapshot =>
    cases answers
    exact h

/-- An access keeps the width also where it faults, for the state that it had reached is what the
bench keeps. -/
theorem InWidth.performAccess (h : bench.InWidth)
    (found : bench.processors.find? name = some processor) (budgetName : String) (budget : Budget)
    (request : AccessRequest) :
    (bench.performAccess name processor budgetName budget request).2.InWidth := by
  have kept := Access.keepsWidth_request request { bench.machineOf processor with budget }
    (h name processor found)
  unfold Bench.performAccess
  dsimp only
  generalize request.perform { bench.machineOf processor with budget } = result at kept ⊢
  cases result with
  | ok value state => exact h.setMachine kept _
  | error fault state => exact h.setMachine kept _

theorem InWidth.perform (h : bench.InWidth) {request : Request} (masks : request.Masks) :
    (bench.perform request).2.InWidth := by
  cases answers : bench.perform? request with
  | error problem =>
    rw [perform_of_error answers]
    exact h
  | ok answered =>
    rw [perform_of_ok answers]
    cases request with
    | newMemory | newBudget =>
      cases answers
      exact h
    | newProcessor other memory stackMode =>
      obtain ⟨mode, -, answers⟩ := Checked.bind_eq_ok.mp answers
      obtain ⟨place, -, answers⟩ := Checked.bind_eq_ok.mp answers
      cases answers
      exact h.setProcessor .powerOn
    | memory | charge | inspect =>
      obtain ⟨needed, -, answers⟩ := Checked.bind_eq_ok.mp answers
      cases answers
      exact h
    | writeWord memory budgetName address value =>
      obtain ⟨place, -, answers⟩ := Checked.bind_eq_ok.mp answers
      obtain ⟨budget, -, answers⟩ := Checked.bind_eq_ok.mp answers
      cases written : (bench.memoryAt place).writeWord address value budget with
      | error fault => rw [written] at answers; cases answers
      | ok changed => rw [written] at answers; cases answers; exact h
    | processor name request =>
      obtain ⟨processor, required, answers⟩ := Checked.bind_eq_ok.mp answers
      have masks : ∀ registers, request ≠ .restore registers := by
        rintro registers rfl
        exact masks
      exact h.of_performProcessor (require_eq_ok.mp required) masks answers
    | access name budgetName request =>
      obtain ⟨processor, required, answers⟩ := Checked.bind_eq_ok.mp answers
      obtain ⟨budget, -, answers⟩ := Checked.bind_eq_ok.mp answers
      cases answers
      exact h.performAccess (require_eq_ok.mp required) budgetName budget request

theorem InWidth.serve (h : bench.InWidth) {requests : List Request}
    (masks : ∀ request ∈ requests, request.Masks) : (bench.serve requests).InWidth := by
  induction requests generalizing bench with
  | nil => exact h
  | cons request rest ih =>
    obtain ⟨here, later⟩ := List.forall_mem_cons.mp masks
    exact ih (h.perform here) later

/-- **Registers and cells stay within their width.**  Begin with a new processor and a new memory,
in either stack mode, and ask for anything but a register file to be restored.  Whatever the
integers in the requests are, whatever hooks do between instructions, and whichever requests fail,
every register of every processor fits its width and no status has a bit outside `$DF`; and every
memory is 65536 bytes, which are what its addresses read. -/
theorem inWidth_of_session (stackMode : StackMode) (cycles : Int) (requests : List Request)
    (masks : ∀ request ∈ requests, request.Masks) :
    let bench := (initial stackMode cycles).serve requests
    (∀ name processor, bench.processors.find? name = some processor →
      let registers := processor.registers
      (0 ≤ registers.a ∧ registers.a ≤ 255) ∧ (0 ≤ registers.x ∧ registers.x ≤ 255) ∧
        (0 ≤ registers.y ∧ registers.y ≤ 255) ∧ (0 ≤ registers.pc ∧ registers.pc ≤ 65535) ∧
        (0 ≤ registers.sp ∧ registers.sp ≤ 65535) ∧
        registers.status.toByte &&& 0xDF = registers.status.toByte) ∧
    ∀ memory ∈ bench.memories, ∃ bytes : List UInt8,
      memory.dump 0 65536 = .ok bytes ∧ bytes.length = 65536 ∧
        (∀ byte ∈ bytes, byte.toNat ≤ 255) ∧
        ∀ address byte, memory.read address = .ok byte ↔
          0 ≤ address ∧ bytes[address.toNat]? = some byte := by
  intro bench
  constructor
  · intro name processor found registers
    have kept : registers.InWidth :=
      (inWidth_initial stackMode cycles).serve masks name processor found
    refine ⟨⟨kept.a.1, Int.le_of_lt_add_one kept.a.2⟩, ⟨kept.x.1, Int.le_of_lt_add_one kept.x.2⟩,
      ⟨kept.y.1, Int.le_of_lt_add_one kept.y.2⟩,
      ⟨kept.pc.nonneg, Int.le_of_lt_add_one kept.pc.small⟩,
      ⟨kept.sp.nonneg, Int.le_of_lt_add_one kept.sp.small⟩, ?_⟩
    exact Status.toByte_and_of_unused kept.unused
  · intro memory _
    refine ⟨memory.block 0 65536, memory.dump_eq_ok (Nat.le_refl _), memory.length_block 0 65536,
      ?_, fun address byte => memory.read_eq_ok_iff⟩
    intro byte _
    exact Nat.le_of_lt_succ byte.toNat_lt

/-- A stack pointer of `-1` and a status of `$FFF` are cut off, a call on that pointer faults after
its operand was consumed, and a hook faults on a poke that names no cell. -/
theorem inWidth_of_session_faults :
    let requests : List Request :=
      [.processor "c" (.setRegister .sp (-1)), .processor "c" (.setRegister .status 0xFFF),
        .memory "m" (.load 0xFFFC [0x20, -1]), .processor "c" .step,
        .access "c" "b" (.effectiveAddress .immediate),
        .processor "c" (.setHook (some { pokes := [⟨0xFFFF, 0x10000, 1⟩] })),
        .processor "c" (.execute 10)]
    let bench := (initial .flat 7).serve requests
    (∀ request ∈ requests, request.Masks) ∧
      ∃ processor, bench.processors.find? "c" = some processor ∧
        processor.registers.pc = 0xFFFF ∧ processor.registers.sp = 0xFFFF ∧
        processor.registers.status.toByte = 0xDF ∧ processor.registers.a ≤ 255 := by
  intro requests bench
  have masks : ∀ request ∈ requests, request.Masks := by decide
  have registers : (bench.processors.find? "c").map (·.registers) =
      some
        { pc := 0xFFFF, sp := 0xFFFF, status := { Status.ofByte 0xDF with unused := false } } := by
    decide +kernel
  obtain ⟨processor, found, same⟩ := Option.map_eq_some_iff.mp registers
  obtain ⟨⟨-, a⟩, -⟩ := (inWidth_of_session .flat 7 requests masks).1 "c" processor found
  refine ⟨masks, processor, found, ?_, ?_, ?_, a⟩
  · rw [same]
  · rw [same]
  · rw [same]
    rfl

end Bench

end Machine6502
