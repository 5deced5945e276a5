import Machine6502.Execution
import Machine6502.Hook

/-!
# Runs on a budget

A run opens a budget and executes instructions until nothing is left of it.  Before every
instruction the hook, if there is one, is consulted.  A run ends in one of three ways: the
budget is used up, the hook stops it, or an instruction, a consultation or a poke faults.

The recursion of `Clocked.runFrom` is on what is left of the budget.  An instruction that
completes charges two cycles or more and a hook charges nothing, so there is no bound on
the number of instructions other than the budget itself.

## Main definitions

* `Clocked.consult` — what the hook makes of the next instruction.
* `Clocked.turn` — one consultation and one instruction.
* `Machine.execute`, `Machine.step` — a run on a budget of given cycles, and of one cycle.
-/

namespace Machine6502

/-- How a run ended, with the cycles it used when it did not fault. -/
inductive Outcome where
  /-- Nothing was left of the budget. -/
  | exhausted (used : Int)
  /-- The hook stopped the run. -/
  | stopped (used : Int)
  | faulted (fault : Fault)
  deriving DecidableEq, Repr

/-- The cycles used by a run, or its fault.  Being stopped by a hook is no fault. -/
def Outcome.result : Outcome → Except Fault Int
  | .exhausted used => .ok used
  | .stopped used => .ok used
  | .faulted fault => .error fault

/-- A finished run. -/
structure Run where
  outcome : Outcome
  /-- The machine as the run left it. -/
  machine : Machine
  /-- The hook as the run left it. -/
  hook : Option Hook
  /-- The consultations of the hook, in order. -/
  calls : List HookCall

/-- What a consultation came to. -/
inductive Consultation where
  /-- The instruction may be executed, on this state. -/
  | proceed (state : Clocked) (hook : Option Hook) (call : Option HookCall)
  /-- The hook stops the run. -/
  | stop (call : HookCall)
  | fault (fault : Fault) (state : Clocked) (hook : Option Hook) (call : Option HookCall)

/-- What one turn of a run came to. -/
inductive Turn where
  /-- An instruction was completed. -/
  | completed (state : Clocked) (hook : Option Hook) (call : Option HookCall)
  /-- The hook stopped the run; nothing changed. -/
  | stopped (call : HookCall)
  | faulted (fault : Fault) (state : Clocked) (hook : Option Hook) (call : Option HookCall)

namespace Clocked

/-- Consults the hook about the instruction at the program counter.  It is shown the opcode,
so an address outside memory faults here already; then it stops the run, or writes its
cells and moves the program counter. -/
def consult (state : Clocked) : Option Hook → Consultation
  | none => .proceed state none none
  | some hook =>
      let pc := state.registers.pc
      match state.memory.read pc with
      | .error fault => .fault fault state (some hook) none
      | .ok opcode =>
          let call : HookCall := ⟨pc, opcode⟩
          if hook.stops call then .stop call
          else
            match hook.pokeAt pc state.memory with
            | (.error fault, memory) =>
                .fault fault { state with memory } (some hook.pass) (some call)
            | (.ok (), memory) =>
                .proceed { state with memory, registers := hook.jumpAt pc state.registers }
                  (some hook.pass) (some call)

/-- Consults the hook and executes one instruction. -/
def turn (state : Clocked) (hook : Option Hook) : Turn :=
  match state.consult hook with
  | .stop call => .stopped call
  | .fault fault state hook call => .faulted fault state hook call
  | .proceed state hook call =>
      match Access.instruction state with
      | .ok () state => .completed state hook call
      | .error fault state => .faulted fault state hook call

theorem budget_of_consult {state state' : Clocked} {hook hook' : Option Hook}
    {call : Option HookCall} (proceeds : state.consult hook = .proceed state' hook' call) :
    state'.budget = state.budget := by
  cases hook with
  | none => cases proceeds; rfl
  | some hook =>
    simp only [consult] at proceeds
    split at proceeds
    · cases proceeds
    · split at proceeds
      · cases proceeds
      · split at proceeds
        · cases proceeds
        · cases proceeds; rfl

/-- A completed turn has charged two cycles or more. -/
theorem remaining_of_turn {state state' : Clocked} {hook hook' : Option Hook}
    {call : Option HookCall} (completes : state.turn hook = .completed state' hook' call) :
    state'.budget.remaining + 2 ≤ state.budget.remaining := by
  unfold turn at completes
  split at completes
  · cases completes
  · cases completes
  · next consulted =>
    rw [← budget_of_consult consulted]
    split at completes
    · next run =>
      cases completes
      exact Access.spends_instruction _ _ _ run
    · cases completes

/-- The machine of a state, ending a run. -/
def finish (state : Clocked) (outcome : Outcome) (hook : Option Hook)
    (earlier : List HookCall) : Run :=
  { outcome, machine := state.toMachine, hook, calls := earlier.reverse }

/-- Goes on with a run.  `earlier` holds the consultations so far, the latest first. -/
def runFrom (state : Clocked) (hook : Option Hook) (earlier : List HookCall) : Run :=
  if state.budget.exhausted then state.finish (.exhausted state.budget.used) hook earlier
  else
    match _completes : state.turn hook with
    | .stopped call => state.finish (.stopped state.budget.used) hook (call :: earlier)
    | .faulted fault state hook call => state.finish (.faulted fault) hook (call.toList ++ earlier)
    | .completed state hook call => state.runFrom hook (call.toList ++ earlier)
termination_by state.budget.remaining.toNat
decreasing_by
  have := remaining_of_turn (by assumption)
  simp_all
  omega

/-- The defining equation of a run. -/
theorem runFrom_eq (state : Clocked) (hook : Option Hook) (earlier : List HookCall) :
    state.runFrom hook earlier =
      if state.budget.exhausted then state.finish (.exhausted state.budget.used) hook earlier
      else
        match state.turn hook with
        | .stopped call => state.finish (.stopped state.budget.used) hook (call :: earlier)
        | .faulted fault state hook call =>
            state.finish (.faulted fault) hook (call.toList ++ earlier)
        | .completed state hook call => state.runFrom hook (call.toList ++ earlier) := by
  rw [runFrom]
  split
  · rfl
  · split <;> simp_all

end Clocked

namespace Machine

/-- The machine with a budget opened for it. -/
def clocked (machine : Machine) (cycles : Int) : Clocked :=
  { machine with budget := .ofRequest cycles }

/-- Executes instructions until `cycles` clock cycles are used up. -/
def execute (machine : Machine) (hook : Option Hook) (cycles : Int) : Run :=
  (machine.clocked cycles).runFrom hook []

/-- Executes one instruction. -/
def step (machine : Machine) (hook : Option Hook) : Run := machine.execute hook 1

end Machine

end Machine6502
