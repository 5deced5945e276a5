import Machine6502.Bench.Directory
import Machine6502.Bench.Request
import Machine6502.Text.Quoted

/-!
# A bench of machines

A bench holds any number of memories, processors and budgets under names and answers
requests about them.  Several processors may be bound to one memory, and a processor may
be bound to another memory later.

A memory is known to processors by its place on the bench, which it keeps for ever, and to
requests by a name.  So a name that is given to a new memory does not take the old one
away from the processors that are bound to it.

A request that fails leaves what it changed before it failed, and the bench goes on.
-/

namespace Machine6502

/-- A register file bound to a memory of the bench. -/
structure Processor where
  stackMode : StackMode := .flat
  registers : Registers := {}
  /-- The place of the memory the processor is bound to. -/
  place : Nat
  hook : Option Hook := none

/-- Why a request failed. -/
inductive Problem where
  | fault (fault : Fault)
  | unknownStackMode (text : String)
  | noSuchObject (name : String)
  deriving DecidableEq, Repr

/-- The wording of why a request failed. -/
def Problem.message : Problem → String
  | .fault cause => cause.message
  | .unknownStackMode text => Text.quoted text ++ " is not a valid StackMode"
  | .noSuchObject name => Text.quoted name ++ " is not on the bench"

/-- The answer to a request, and the consultations of hooks it brought about. -/
structure Reply where
  result : Except Problem Value
  calls : List HookCall := []

/-- Named memories, processors, budgets and kept registers. -/
structure Bench where
  /-- Every memory there ever was, at its place. -/
  memories : List Memory := []
  places : Directory Nat := {}
  processors : Directory Processor := {}
  budgets : Directory Budget := {}
  snapshots : Directory Registers := {}

/-- The mode of a text, flat when there is none. -/
def StackMode.ofText (text : Option String) : Except Problem StackMode :=
  match text with
  | none => .ok .flat
  | some text =>
      match StackMode.ofName? text with
      | some mode => .ok mode
      | none => .error (.unknownStackMode text)

namespace Bench

/-- A found object, or the failure to find one of that name. -/
def require {α : Type} (name : String) : Option α → Except Problem α
  | some object => .ok object
  | none => .error (.noSuchObject name)

/-- The memory at a place. -/
def memoryAt (bench : Bench) (place : Nat) : Memory := bench.memories.getD place .blank

/-- The bench with the memory at a place replaced. -/
def setMemory (bench : Bench) (place : Nat) (memory : Memory) : Bench :=
  { bench with memories := bench.memories.set place memory }

/-- The bench with a cleared memory added under a name. -/
def addMemory (bench : Bench) (name : String) : Bench :=
  { bench with
    memories := bench.memories ++ [.blank]
    places := bench.places.insert name bench.memories.length }

/-- The bench with a processor added under a name. -/
def setProcessor (bench : Bench) (name : String) (processor : Processor) : Bench :=
  { bench with processors := bench.processors.insert name processor }

/-- The bench with a budget added under a name. -/
def setBudget (bench : Bench) (name : String) (budget : Budget) : Bench :=
  { bench with budgets := bench.budgets.insert name budget }

/-- The machine made up by a processor and the memory it is bound to. -/
def machineOf (bench : Bench) (processor : Processor) : Machine where
  stackMode := processor.stackMode
  registers := processor.registers
  memory := bench.memoryAt processor.place

/-- The bench after the machine of a processor, and its hook, have changed. -/
def setMachine (bench : Bench) (name : String) (processor : Processor) (machine : Machine)
    (hook : Option Hook) : Bench :=
  (bench.setMemory processor.place machine.memory).setProcessor name
    { processor with registers := machine.registers, hook }

/-- A bench with one memory `m`, a processor `c` bound to it and a budget `b`. -/
def initial (stackMode : StackMode) (cycles : Int) : Bench :=
  ((({} : Bench).addMemory "m").setProcessor "c" { stackMode, place := 0 }).setBudget "b"
    (.ofRequest cycles)

/-- Answers without consultations. -/
def answer (bench : Bench) (value : Value) : Reply × Bench := ({ result := .ok value }, bench)

/-- Changes the registers of a processor. -/
def adjust (bench : Bench) (name : String) (processor : Processor)
    (change : Registers → Registers) : Reply × Bench :=
  (bench.setProcessor name { processor with registers := change processor.registers }).answer
    .nothing

/-- Runs the machine of a processor. -/
def execute (bench : Bench) (name : String) (processor : Processor) (cycles : Int) :
    Reply × Bench :=
  let run := (bench.machineOf processor).execute processor.hook cycles
  let result := (run.outcome.result.map Value.number).mapError Problem.fault
  ({ result, calls := run.calls }, bench.setMachine name processor run.machine run.hook)

/-- Answers a request to a processor. -/
def performProcessor (bench : Bench) (name : String) (processor : Processor) :
    ProcessorRequest → Except Problem (Reply × Bench)
  | .reset memory => do
      let place ← match memory with
        | none => pure processor.place
        | some other => require other (bench.places.find? other)
      let processor := { processor with place }
      let machine := (bench.machineOf processor).reset
      return (bench.setMachine name processor machine processor.hook).answer .nothing
  | .boundMemory =>
      return bench.answer <|
        match bench.places.nameOf? (· == processor.place) with
        | some bound => .text bound
        | none => .nothing
  | .setRegister register value =>
      return bench.adjust name processor fun registers => registers.set register value
  | .getRegister register => return bench.answer (.number (processor.registers.get register))
  | .setFlag flag value =>
      return bench.adjust name processor fun registers => registers.setFlag flag value
  | .getFlag flag => return bench.answer (.truth (processor.registers.status.get flag))
  | .restore registers => return bench.adjust name processor fun _ => registers
  | .registers => return bench.answer (.registers processor.registers)
  | .registerLine => return bench.answer (.text processor.registers.line)
  | .snapshot kept =>
      let snapshots := bench.snapshots.insert kept processor.registers
      return { bench with snapshots }.answer .nothing
  | .compare kept => do
      let registers ← require kept (bench.snapshots.find? kept)
      return bench.answer (.comparison registers (registers = processor.registers))
  | .flagAccumulator => return bench.adjust name processor Registers.flagAccumulator
  | .setHook hook => return (bench.setProcessor name { processor with hook }).answer .nothing
  | .execute cycles => return bench.execute name processor cycles
  | .step => return bench.execute name processor 1

/-- Answers an access of a processor that draws on a budget. -/
def performAccess (bench : Bench) (name : String) (processor : Processor) (budgetName : String)
    (budget : Budget) (request : AccessRequest) : Reply × Bench :=
  let put (state : Clocked) : Bench :=
    (bench.setMachine name processor state.toMachine processor.hook).setBudget budgetName
      state.budget
  match request.perform { bench.machineOf processor with budget } with
  | .ok value state => (put state).answer value
  | .error fault state => ({ result := .error (.fault fault) }, put state)

/-- Answers a request whose objects are all on the bench. -/
def perform? (bench : Bench) : Request → Except Problem (Reply × Bench)
  | .newMemory name => return (bench.addMemory name).answer .nothing
  | .newProcessor name memory stackMode => do
      let stackMode ← StackMode.ofText stackMode
      let place ← require memory (bench.places.find? memory)
      return (bench.setProcessor name { stackMode, place }).answer .nothing
  | .newBudget name cycles => return (bench.setBudget name (.ofRequest cycles)).answer .nothing
  | .memory name request => do
      let place ← require name (bench.places.find? name)
      let (result, memory) := request.perform (bench.memoryAt place)
      return ({ result := result.mapError .fault }, bench.setMemory place memory)
  | .writeWord memoryName budgetName address value => do
      let place ← require memoryName (bench.places.find? memoryName)
      let budget ← require budgetName (bench.budgets.find? budgetName)
      match (bench.memoryAt place).writeWord address value budget with
      | .ok (memory, budget) =>
          return ((bench.setMemory place memory).setBudget budgetName budget).answer .nothing
      | .error fault => throw (.fault fault)
  | .charge name cycles => do
      let budget ← require name (bench.budgets.find? name)
      return (bench.setBudget name (budget.charge cycles)).answer .nothing
  | .inspect name => do
      let _ ← require name (bench.budgets.find? name)
      return bench.answer .nothing
  | .processor name request => do
      let processor ← require name (bench.processors.find? name)
      bench.performProcessor name processor request
  | .access name budgetName request => do
      let processor ← require name (bench.processors.find? name)
      let budget ← require budgetName (bench.budgets.find? budgetName)
      return bench.performAccess name processor budgetName budget request

/-- Answers a request.  A request about an object that is not on the bench changes nothing. -/
def perform (bench : Bench) (request : Request) : Reply × Bench :=
  match bench.perform? request with
  | .ok answered => answered
  | .error problem => ({ result := .error problem }, bench)

/-- The names whose memories have changed between two benches, with the cells that have.  A
memory is followed by its place, so one that was added in between has changed from cleared,
also when its name was taken from another. -/
def changes (before after : Bench) : List (String × List (Nat × UInt8)) :=
  after.places.entries.filterMap fun (name, place) =>
    match (before.memoryAt place).changes (after.memoryAt place) with
    | [] => none
    | cells => some (name, cells)

end Bench

end Machine6502
