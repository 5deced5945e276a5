import Machine6502.Proofs.Journal
import Machine6502.Proofs.Session

/-!
# The stack pointer after a reset

On a flat stack a call can fault: the two cells of a push need not exist.  After a reset it
never does.  The pointer starts at `$0100` and every call adds two to it, so it stays even,
also when it wraps from `$FFFE` to zero; and an even address below 65536 is followed by one
more.  Nothing in the machine checks this.

* `StackMode.pointer` — where some number of calls leave the stack pointer.
* `Machine.AfterCalls` — the invariant: the program counter names a cell and the stack
  pointer is the one after so many calls.
* `Request.Ordinary` — the requests that leave the stack to the runs.
* `Bench.stackPointer_after_reset` — the invariant over any session that follows a reset.

### Why the program counter is part of the invariant

The other address a run can fault on is the one of an opcode.  The setter of the program
counter and every instruction wrap it, so it can only be outside the memory where registers
were restored whole.
-/

namespace Machine6502

open Memory (Addressable)

/-- The stack pointer after some calls that followed a reset. -/
def StackMode.pointer (stackMode : StackMode) (calls : Nat) : Int :=
  match stackMode with
  | .flat => (256 + 2 * calls) % 65536
  | .paged => 256 + 2 * calls % 256

/-- The invariant of the pointers: what `calls` calls have left since a reset. -/
structure Machine.AfterCalls (stackMode : StackMode) (calls : Nat) (machine : Machine) : Prop where
  stackMode_eq : machine.stackMode = stackMode
  pc : Addressable machine.registers.pc
  sp : machine.registers.sp = stackMode.pointer calls

theorem StackMode.pointer_even (stackMode : StackMode) (calls : Nat) :
    stackMode.pointer calls % 2 = 0 := by
  cases stackMode <;> simp only [pointer] <;> omega

namespace Machine

variable {machine left : Machine} {stackMode : StackMode} {calls : Nat} {spent : Int}

theorem afterCalls_reset (machine : Machine) :
    machine.reset.AfterCalls machine.stackMode 0 where
  stackMode_eq := rfl
  pc := by show Addressable 0xFFFC; decide
  sp := by cases mode : machine.stackMode <;> rfl

/-- The parity leaves room for a push. -/
theorem AfterCalls.hasRoom (h : machine.AfterCalls stackMode calls) : machine.HasRoom := by
  intro flat
  have sp := h.sp
  rw [← h.stackMode_eq, flat, StackMode.pointer] at sp
  omega

/-- An instruction that is no call keeps the stack pointer, and a call moves it on. -/
theorem AfterCalls.of_effect (h : machine.AfterCalls stackMode calls)
    (effect : machine.effect = .completed left spent) :
    left.AfterCalls stackMode (calls + if Entry.isCall ⟨machine, left⟩ then 1 else 0) := by
  have pc := addressable_pc_of_effect effect
  obtain ⟨-, row, found, -, ⟨load, rfl⟩ | ⟨jump, -, rfl⟩⟩ := effect_eq_completed effect
  · have noCall : Entry.isCall ⟨machine, machine.loaded row.mode⟩ = false :=
      Entry.isCall_of_load found load
    rw [noCall]
    exact ⟨h.stackMode_eq, pc, h.sp⟩
  · have call : Entry.isCall ⟨machine, machine.called⟩ = true := Entry.isCall_of_call found jump
    rw [call, if_pos rfl]
    refine ⟨h.stackMode_eq, pc, ?_⟩
    rw [called_sp, stackCell, h.stackMode_eq, h.sp]
    -- A flat pointer wraps as a word and a paged one in its low byte.
    cases stackMode <;> simp only [StackMode.pointer, Word.wrap, Word.lowByte, stackPage,
      Int.natCast_add] <;> omega

/-- The only fault is an opcode without a row, and it keeps the pointers. -/
theorem AfterCalls.of_fault (h : machine.AfterCalls stackMode calls) {fault : Fault}
    (effect : machine.effect = .faulted fault left spent) :
    (∃ opcode address, fault = .unhandledOpcode opcode (some address)) ∧
      left.AfterCalls stackMode calls := by
  obtain ⟨outside, -, -⟩ | ⟨-, -, rfl, rfl⟩ | ⟨-, full, -, -, -⟩ := effect_eq_faulted effect
  · exact absurd h.pc outside
  · exact ⟨⟨_, _, rfl⟩, h.stackMode_eq, Word.addressable_wrap _, h.sp⟩
  · exact absurd h.hasRoom full

/-- A run counts the calls of its journal, however it ends. -/
theorem AfterCalls.of_run (machine : Machine) (cycles : Int) :
    ∀ calls, machine.AfterCalls stackMode calls →
      (machine.execute none cycles).machine.AfterCalls stackMode
          (calls + (machine.journal none cycles).countP Entry.isCall) ∧
        ∀ fault, (machine.execute none cycles).outcome = .faulted fault →
          ∃ opcode address, fault = .unhandledOpcode opcode (some address) := by
  induction machine, cycles using bare_run_induction with
  | exhausted machine cycles le =>
    intro calls h
    rw [execute_of_nonpos machine none le, journal_of_nonpos machine none le]
    refine ⟨h, ?_⟩
    intro fault faulted
    cases faulted
  | faulted machine cycles fault left spent pos effect =>
    intro calls h
    obtain ⟨unhandled, kept⟩ := h.of_fault effect
    rw [execute_of_fault pos effect, journal_of_fault effect]
    refine ⟨kept, ?_⟩
    intro fault' faulted
    cases faulted
    exact unhandled
  | completed machine cycles left spent pos effect ih =>
    intro calls h
    obtain ⟨kept, faults⟩ := ih _ (h.of_effect effect)
    rw [execute_of_effect pos effect, journal_of_effect pos effect, List.countP_cons,
      Nat.add_comm (List.countP _ _), ← Nat.add_assoc]
    refine ⟨kept, ?_⟩
    intro fault faulted
    exact faults fault (Outcome.after_eq_faulted.mp faulted)

end Machine

/-! ## Sessions -/

/-- The request leaves the stack to the runs and installs no hook. -/
def ProcessorRequest.Ordinary : ProcessorRequest → Prop
  | .reset _ | .restore _ => False
  | .setHook hook => hook = none
  | .setRegister register _ => register ≠ .sp
  | .boundMemory | .getRegister _ | .setFlag _ _ | .getFlag _ | .registers | .registerLine
  | .snapshot _ | .compare _ | .flagAccumulator | .execute _ | .step => True

/-- The request is ordinary for the processor of that name: it is any request to a memory,
to a budget or to another processor, or one that sets registers other than the stack
pointer, sets flags, reads or runs. -/
def Request.Ordinary (name : String) : Request → Prop
  | .processor other request => other = name → request.Ordinary
  | request => request.Spares name

namespace Bench

/-- The calls that a processor completes when it is run for some cycles. -/
def callsOfRun (bench : Bench) (name : String) (cycles : Int) : Nat :=
  match bench.processors.find? name with
  | none => 0
  | some processor =>
      ((bench.machineOf processor).journal processor.hook cycles).countP Entry.isCall

/-- The calls that a processor completes during a request. -/
def callsOf (bench : Bench) (name : String) : Request → Nat
  | .processor other (.execute cycles) => if other = name then bench.callsOfRun name cycles else 0
  | .processor other .step => if other = name then bench.callsOfRun name 1 else 0
  | _ => 0

/-- The calls that a processor completes during a session. -/
def calls (bench : Bench) (name : String) : List Request → Nat
  | [] => 0
  | request :: rest => bench.callsOf name request + (bench.perform request).2.calls name rest

/-- A processor without a hook, which completed `calls` calls since its reset. -/
def AfterCalls (bench : Bench) (name : String) (stackMode : StackMode) (calls : Nat) : Prop :=
  ∃ processor, bench.processors.find? name = some processor ∧ processor.hook = none ∧
    (bench.machineOf processor).AfterCalls stackMode calls

variable {bench : Bench} {name : String} {stackMode : StackMode} {calls : Nat}

theorem callsOf_of_spares {request : Request} (spares : request.Spares name) :
    bench.callsOf name request = 0 := by
  cases request with
  | processor other request =>
    cases request with
    | execute | step => exact if_neg spares
    | _ => rfl
  | _ => rfl

theorem AfterCalls.of_spares (h : bench.AfterCalls name stackMode calls) {request : Request}
    (spares : request.Spares name) :
    (bench.perform request).2.AfterCalls name stackMode (calls + bench.callsOf name request) := by
  obtain ⟨processor, found, bare, kept⟩ := h
  rw [callsOf_of_spares spares]
  refine ⟨processor, (bench.find?_perform_of_spares spares).trans found, bare, ?_⟩
  -- The memory may have changed, the pointers have not.
  exact ⟨kept.stackMode_eq, kept.pc, kept.sp⟩

theorem callsOfRun_eq {processor : Processor}
    (found : bench.processors.find? name = some processor) (bare : processor.hook = none)
    (cycles : Int) :
    bench.callsOfRun name cycles =
      ((bench.machineOf processor).journal none cycles).countP Entry.isCall := by
  simp only [callsOfRun, found, bare]

/-- Running a processor: the calls of the run are counted, and its only fault is an opcode
without a row. -/
theorem AfterCalls.of_run {processor : Processor}
    (found : bench.processors.find? name = some processor) (bare : processor.hook = none)
    (kept : (bench.machineOf processor).AfterCalls stackMode calls) (cycles : Int) :
    (bench.execute name processor cycles).2.AfterCalls name stackMode
        (calls + bench.callsOfRun name cycles) ∧
      ∀ problem, (bench.execute name processor cycles).1.result = .error problem →
        ∃ opcode address, problem = .fault (.unhandledOpcode opcode (some address)) := by
  obtain ⟨after, faults⟩ := Machine.AfterCalls.of_run (bench.machineOf processor) cycles calls kept
  obtain ⟨hook, -⟩ := Machine.bare_run_hook (bench.machineOf processor) cycles
  rw [callsOfRun_eq found bare, execute, bare]
  constructor
  · refine ⟨_, find?_setMachine_self .., hook, ?_⟩
    have mode : processor.stackMode = stackMode := kept.stackMode_eq
    exact ⟨mode, after.pc, after.sp⟩
  · intro problem fails
    cases outcome : ((bench.machineOf processor).execute none cycles).outcome with
    | faulted fault =>
      obtain ⟨opcode, address, rfl⟩ := faults fault outcome
      simp only [outcome, Outcome.result] at fails
      cases fails
      exact ⟨opcode, address, rfl⟩
    | exhausted used | stopped used =>
      simp only [outcome, Outcome.result] at fails
      cases fails

/-- Each ordinary request to the processor itself keeps the invariant. -/
theorem AfterCalls.of_own (h : bench.AfterCalls name stackMode calls)
    {request : ProcessorRequest} (ordinary : request.Ordinary) :
    (bench.perform (.processor name request)).2.AfterCalls name stackMode
      (calls + bench.callsOf name (.processor name request)) := by
  obtain ⟨processor, found, bare, kept⟩ := h
  cases answers : bench.performProcessor name processor request with
  | error problem =>
    -- Of the ordinary requests only a comparison can lack what it needs.
    rw [perform_of_error ((perform?_processor found request).trans answers)]
    cases request with
    | reset => exact absurd ordinary id
    | compare => exact ⟨processor, found, bare, kept⟩
    | _ => cases answers
  | ok answered =>
    rw [perform_of_ok ((perform?_processor found request).trans answers)]
    cases request with
    | reset | restore => exact absurd ordinary id
    | setHook hook =>
      cases answers
      exact ⟨_, find?_setProcessor_self .., ordinary, kept.stackMode_eq, kept.pc, kept.sp⟩
    | setRegister register value =>
      cases answers
      refine ⟨_, find?_setProcessor_self .., bare, ?_⟩
      cases register with
      | pc => exact ⟨kept.stackMode_eq, Word.addressable_wrap value, kept.sp⟩
      | sp => exact absurd rfl ordinary
      | a | x | y | status => exact ⟨kept.stackMode_eq, kept.pc, kept.sp⟩
    | setFlag | flagAccumulator =>
      cases answers
      exact ⟨_, find?_setProcessor_self .., bare, kept.stackMode_eq, kept.pc, kept.sp⟩
    | execute cycles =>
      cases answers
      rw [callsOf, if_pos rfl]
      exact (AfterCalls.of_run found bare kept cycles).1
    | step =>
      cases answers
      rw [callsOf, if_pos rfl]
      exact (AfterCalls.of_run found bare kept 1).1
    | compare other =>
      obtain ⟨registers, -, answers⟩ := Checked.bind_eq_ok.mp answers
      cases answers
      exact ⟨processor, found, bare, kept⟩
    | boundMemory | getRegister | getFlag | registers | registerLine | snapshot =>
      cases answers
      exact ⟨processor, found, bare, kept.stackMode_eq, kept.pc, kept.sp⟩

theorem AfterCalls.of_perform (h : bench.AfterCalls name stackMode calls) {request : Request}
    (ordinary : request.Ordinary name) :
    (bench.perform request).2.AfterCalls name stackMode (calls + bench.callsOf name request) := by
  cases request with
  | processor other request =>
    by_cases own : other = name
    · subst own
      exact h.of_own (ordinary rfl)
    · exact h.of_spares own
  | newMemory | newBudget | memory | writeWord | charge | inspect => exact h.of_spares trivial
  | newProcessor | access => exact h.of_spares ordinary

/-- A session of ordinary requests keeps the invariant and counts its calls. -/
theorem AfterCalls.of_serve (h : bench.AfterCalls name stackMode calls) {requests : List Request}
    (ordinary : ∀ request ∈ requests, request.Ordinary name) :
    (bench.serve requests).AfterCalls name stackMode (calls + bench.calls name requests) := by
  induction requests generalizing bench calls with
  | nil => exact h
  | cons request rest ih =>
    have first := h.of_perform (ordinary request List.mem_cons_self)
    rw [serve_cons, Bench.calls, ← Nat.add_assoc]
    exact ih first fun later member => ordinary later (List.mem_cons_of_mem request member)

/-- What a reset leaves: a cleared memory, the processor with its hook, and no calls yet. -/
theorem perform_reset {processor : Processor}
    (found : bench.processors.find? name = some processor) (bare : processor.hook = none) :
    let start := (bench.perform (.processor name (.reset none))).2
    start.memoryAt processor.place = .blank ∧ start.AfterCalls name processor.stackMode 0 := by
  have reset : (bench.perform (.processor name (.reset none))).2 =
      bench.setMachine name processor (bench.machineOf processor).reset processor.hook := by
    rw [perform_of_ok (perform?_processor found _)]
    rfl
  have after := (bench.machineOf processor).afterCalls_reset
  intro start
  rw [show start = _ from reset]
  constructor
  · show (bench.memories.set processor.place .blank).getD processor.place .blank = .blank
    rw [List.getD_eq_getElem?_getD, List.getElem?_set_self']
    cases bench.memories[processor.place]? <;> rfl
  · exact ⟨_, find?_setMachine_self .., bare, after.stackMode_eq, after.pc, after.sp⟩

/-- **A machine that was reset never faults on an address.**  Take any bench, whatever was
done before, and reset a processor without a hook.  Its memory is cleared, and after any
session of ordinary requests its stack pointer tells how many calls it has completed since.
So the pointer is even, and a run that is asked for next can only fault on an opcode without
a row. -/
theorem stackPointer_after_reset (bench : Bench) (name : String) (processor : Processor)
    (found : bench.processors.find? name = some processor) (bare : processor.hook = none)
    (requests : List Request) (ordinary : ∀ request ∈ requests, request.Ordinary name) :
    let start := (bench.perform (.processor name (.reset none))).2
    let finish := start.serve requests
    let k : Nat := start.calls name requests
    start.memoryAt processor.place = .blank ∧
      (∃ after, finish.processors.find? name = some after ∧
        after.stackMode = processor.stackMode ∧ after.hook = none ∧
        (after.stackMode = .flat → after.registers.sp = (256 + 2 * k) % 65536) ∧
        (after.stackMode = .paged → after.registers.sp = 256 + 2 * k % 256) ∧
        after.registers.sp % 2 = 0) ∧
      ∀ cycles problem,
        (finish.perform (.processor name (.execute cycles))).1.result = .error problem ∨
          (finish.perform (.processor name .step)).1.result = .error problem →
        ∃ opcode address, problem = .fault (.unhandledOpcode opcode (some address)) := by
  intro start finish k
  obtain ⟨cleared, fresh⟩ := perform_reset found bare
  have counted : finish.AfterCalls name processor.stackMode k := by
    have served := fresh.of_serve ordinary
    rwa [Nat.zero_add] at served
  obtain ⟨after, found', bare', kept⟩ := counted
  have mode : after.stackMode = processor.stackMode := kept.stackMode_eq
  have sp : after.registers.sp = after.stackMode.pointer k := by rw [mode]; exact kept.sp
  refine ⟨cleared, ⟨after, found', mode, bare', ?_, ?_, ?_⟩, ?_⟩
  · intro flat
    rw [sp, flat, StackMode.pointer]
  · intro paged
    rw [sp, paged, StackMode.pointer]
  · rw [sp]
    exact after.stackMode.pointer_even k
  · intro cycles problem fails
    rcases fails with fails | fails
    · rw [perform_of_ok (perform?_processor found' (.execute cycles))] at fails
      exact (AfterCalls.of_run found' bare' kept cycles).2 problem fails
    · rw [perform_of_ok (perform?_processor found' .step)] at fails
      exact (AfterCalls.of_run found' bare' kept 1).2 problem fails

/-- A subroutine that calls itself, until its opcode is overwritten. -/
theorem stackPointer_after_reset_recursion :
    let bench := Bench.initial .flat 0
    let processor : Processor := { place := 0 }
    let start := (bench.perform (.processor "c" (.reset none))).2
    let requests : List Request :=
      [.memory "m" (.load 0xFFFC [0x20, 0xFC, 0xFF]), .processor "c" (.execute 12),
        .memory "m" (.write 0xFFFC 0), .processor "c" .step]
    bench.processors.find? "c" = some processor ∧ processor.hook = none ∧
      (∀ request ∈ requests, request.Ordinary "c") ∧ start.calls "c" requests = 2 ∧
      ∃ after, (start.serve requests).processors.find? "c" = some after ∧
        after.registers.sp = 260 := by
  intro bench processor start requests
  have found : bench.processors.find? "c" = some processor := find?_setProcessor_self _ "c" _
  have ordinary : ∀ request ∈ requests, request.Ordinary "c" := by
    simp [requests, Request.Ordinary, Request.Spares, ProcessorRequest.Ordinary]
  have two : start.calls "c" requests = 2 := by decide +kernel
  obtain ⟨-, ⟨after, found', mode, -, flat, -⟩, -⟩ :=
    stackPointer_after_reset bench "c" processor found rfl requests ordinary
  refine ⟨found, rfl, ordinary, two, after, found', ?_⟩
  have sp := flat mode
  rwa [two] at sp

end Bench

end Machine6502
