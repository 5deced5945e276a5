import Machine6502.Machine

/-!
# Accesses on a budget

Everything a machine does is made of the accesses below, and each charges the cycles it
takes: one per byte that is fetched or read, two per word that is pushed.  An access runs
on a machine and an open budget and may fault.

### Faults keep the state

`Access` is the state monad with a fault as a second way out, and a fault carries the
state that was reached.  So an access that fails half-way has moved the program counter
and charged the budget for the half that it did.

### Three kinds of word access

`fetchWord` follows the program counter, which wraps from `$FFFF` to `$0000`, and charges
both bytes at once.  `readWord` reads an address and the one after it, which never wraps,
and charges each byte as it is read.  `pushWord` writes through the stack pointer.

`Spends` is the lower bound on charges that a run needs in order to end.
-/

namespace Machine6502

/-- A machine in the middle of a run: it draws on an open budget. -/
structure Clocked extends Machine where
  budget : Budget
  deriving DecidableEq

/-- A computation on a running machine.  A fault keeps the state it occurred in. -/
abbrev Access := EStateM Fault Clocked

namespace Access

/-- Charges cycles to the budget. -/
def charge (cycles : Int) : Access Unit := fun state =>
  .ok () { state with budget := state.budget.charge cycles }

/-- The registers of the machine. -/
def registers : Access Registers := fun state => .ok state.registers state

/-- Changes the registers of the machine. -/
def adjust (change : Registers → Registers) : Access Unit := fun state =>
  .ok () { state with registers := change state.registers }

/-- Reads a cell without a charge. -/
def peek (address : Int) : Access UInt8 := fun state =>
  match state.memory.read address with
  | .ok value => .ok value state
  | .error fault => .error fault state

/-- Writes a cell without a charge. -/
def poke (address value : Int) : Access Unit := fun state =>
  match state.memory.write address value with
  | .ok memory => .ok () { state with memory }
  | .error fault => .error fault state

/-- Writes a word and charges two cycles. -/
def storeWord (address value : Int) : Access Unit := fun state =>
  match state.memory.writeWord address value state.budget with
  | .ok (memory, budget) => .ok () { state with memory, budget }
  | .error fault => .error fault state

/-- Reads the cell at the program counter and moves the program counter past it. -/
def next : Access UInt8 := do
  let value ← peek (← registers).pc
  adjust fun registers => registers.setPc (registers.pc + 1)
  return value

/-- Fetches the byte at the program counter. -/
def fetchByte : Access UInt8 := do
  let value ← next
  charge 1
  return value

/-- Fetches the word at the program counter, low byte first. -/
def fetchWord : Access Int := do
  let low ← next
  let high ← next
  charge 2
  return Word.ofBytes low high

/-- Reads the byte at an address. -/
def readByte (address : Int) : Access UInt8 := do
  let value ← peek address
  charge 1
  return value

/-- Reads the word at an address and the one after it, low byte first. -/
def readWord (address : Int) : Access Int := do
  let low ← readByte address
  let high ← readByte (address + 1)
  return Word.ofBytes low high

/-- Pushes a word, low byte at the lower address, and moves the stack pointer by two. -/
def pushWord (value : Int) : Access Unit := do
  match (← get).stackMode with
  | .flat =>
    storeWord (← registers).sp value
    adjust fun registers => registers.setSp (registers.sp + 2)
  | .paged =>
    let sp := (← registers).sp
    poke (stackPage + Word.lowByte sp) value
    poke (stackPage + Word.lowByte (sp + 1)) (value / 256)
    charge 2
    adjust fun registers => registers.setSp (stackPage + Word.lowByte (registers.sp + 2))

/-! ### What an access charges at least -/

/-- Whenever the access succeeds it has charged `cycles` or more. -/
def Spends {α : Type} (cycles : Int) (access : Access α) : Prop :=
  ∀ state value state', access state = .ok value state' →
    state'.budget.remaining + cycles ≤ state.budget.remaining

theorem Spends.mono {α : Type} {access : Access α} {cycles fewer : Int}
    (spends : Spends cycles access) (le : fewer ≤ cycles) : Spends fewer access := by
  intro state value state' run
  have := spends state value state' run
  omega

theorem spends_pure {α : Type} (value : α) : Spends 0 (pure value : Access α) := by
  intro state value' state' run
  cases run
  simp

theorem Spends.bind {α β : Type} {access : Access α} {rest : α → Access β} {first second : Int}
    (spends : Spends first access) (spends' : ∀ value, Spends second (rest value)) :
    Spends (first + second) (access >>= rest) := by
  intro state value state' run
  simp only [Bind.bind, EStateM.bind] at run
  split at run
  · next value₁ state₁ run₁ =>
    have := spends _ _ _ run₁
    have := spends' _ _ _ _ run
    omega
  · cases run

theorem spends_throw {α : Type} (fault : Fault) (cycles : Int) :
    Spends cycles (throw fault : Access α) := by
  intro state value state' run
  cases run

theorem spends_charge (cycles : Int) : Spends cycles (charge cycles) := by
  intro state value state' run
  cases run
  simp

theorem spends_registers : Spends 0 registers := by
  intro state value state' run
  cases run
  simp

theorem spends_get : Spends 0 (get : Access Clocked) := by
  intro state value state' run
  cases run
  simp

theorem spends_adjust (change : Registers → Registers) : Spends 0 (adjust change) := by
  intro state value state' run
  cases run
  simp

theorem spends_peek (address : Int) : Spends 0 (peek address) := by
  intro state value state' run
  unfold peek at run
  split at run
  · cases run
    simp
  · cases run

theorem spends_poke (address value : Int) : Spends 0 (poke address value) := by
  intro state result state' run
  unfold poke at run
  split at run
  · cases run
    simp
  · cases run

theorem spends_storeWord (address value : Int) : Spends 0 (storeWord address value) := by
  intro state result state' run
  unfold storeWord Memory.writeWord Memory.cellOf at run
  simp only [bind, Except.bind, pure, Except.pure] at run
  split at run
  · next equation =>
    cases run
    split at equation
    · cases equation
    · split at equation
      · cases equation
      · cases equation
        simp only [Budget.charge_remaining]
        omega
  · cases run

theorem spends_next : Spends 0 next :=
  spends_registers.bind fun _ => (spends_peek _).bind fun _ =>
    (spends_adjust _).bind fun _ => spends_pure _

theorem spends_fetchByte : Spends 1 fetchByte :=
  spends_next.bind fun _ => (spends_charge 1).bind fun _ => spends_pure _

theorem spends_fetchWord : Spends 2 fetchWord :=
  spends_next.bind fun _ => spends_next.bind fun _ =>
    (spends_charge 2).bind fun _ => spends_pure _

theorem spends_readByte (address : Int) : Spends 1 (readByte address) :=
  (spends_peek address).bind fun _ => (spends_charge 1).bind fun _ => spends_pure _

theorem spends_readWord (address : Int) : Spends 2 (readWord address) :=
  (spends_readByte address).bind fun _ => (spends_readByte (address + 1)).bind fun _ =>
    spends_pure _

end Access

end Machine6502
