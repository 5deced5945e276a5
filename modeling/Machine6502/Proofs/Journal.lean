import Machine6502.Proofs.Effect

/-!
# Runs without a budget

`Clocked.runFrom` carries a budget and the consultations so far.  Neither has a say in what
a turn does, so a run can be told without them: it is a recursion on the cycles it was
given, in which every turn hands a smaller number on.  This module proves that equation
(`Machine.execute_eq`) and the one induction that goes with it (`Machine.run_induction`),
and it is the last one that mentions a budget.

The journal of a run lists the instructions that it completed.  It is collected by the
same consultations and instructions as the run itself, and it satisfies the same recursion
(`Machine.journal_eq`).

* `Machine.Pass`, `Machine.pass` — one turn, with the budget left out.
* `Run.resumed` — a run as the end of a longer one.
* `Entry`, `Machine.journal` — the completed instructions of a run.
* `Machine.Linked`, `Machine.reached` — a journal as a chain of machines, and its end.

### Runs without a hook

For these a pass is an effect, the induction needs no hook (`Machine.bare_run_induction`)
and the journal is a chain, so that `Machine.bare_run_end` can say where the run ends.
-/

namespace Machine6502

/-! ## A turn without a budget -/

/-- What a turn comes to, with the budget left out. -/
inductive Machine.Pass where
  /-- An instruction was completed, on a machine that the hook may have changed first. -/
  | completed (found left : Machine) (cycles : Int) (hook : Option Hook) (call : Option HookCall)
  | stopped (call : HookCall)
  | faulted (fault : Fault) (left : Machine) (cycles : Int) (hook : Option Hook)
      (call : Option HookCall)

/-- One consultation and one instruction. -/
def Machine.pass (machine : Machine) (hook : Option Hook) : Pass :=
  match Clocked.consult ⟨machine, .ofRequest 0⟩ hook with
  | .stop call => .stopped call
  | .fault fault state hook call => .faulted fault state.toMachine 0 hook call
  | .proceed state hook call =>
      match state.toMachine.effect with
      | .completed left cycles => .completed state.toMachine left cycles hook call
      | .faulted fault left cycles => .faulted fault left cycles hook call

/-- A pass as a turn that draws on `budget`. -/
def Machine.Pass.turn (budget : Budget) : Pass → Turn
  | .completed _ left cycles hook call => .completed ⟨left, budget.charge cycles⟩ hook call
  | .stopped call => .stopped call
  | .faulted fault left cycles hook call => .faulted fault ⟨left, budget.charge cycles⟩ hook call

namespace Clocked

variable {machine : Machine} {budget : Budget} {hook : Option Hook}

/-- The consultation, with the budget exchanged for another one. -/
theorem consult_exchange (machine : Machine) (budget fresh : Budget) (hook : Option Hook) :
    consult ⟨machine, budget⟩ hook =
      match consult ⟨machine, fresh⟩ hook with
      | .stop call => .stop call
      | .fault fault state hook call => .fault fault ⟨state.toMachine, budget⟩ hook call
      | .proceed state hook call => .proceed ⟨state.toMachine, budget⟩ hook call := by
  cases hook with
  | none => rfl
  | some hook =>
    simp only [consult]
    cases machine.memory.read machine.registers.pc with
    | error fault => rfl
    | ok opcode =>
      dsimp only
      by_cases stops : hook.stops ⟨machine.registers.pc, opcode⟩ = true
      · rw [if_pos stops, if_pos stops]
      · rw [if_neg stops, if_neg stops]
        cases hook.pokeAt machine.registers.pc machine.memory with
        | mk result memory => cases result <;> rfl

/-- A pass may be taken on any budget. -/
theorem pass_eq (machine : Machine) (budget : Budget) (hook : Option Hook) :
    machine.pass hook =
      match consult ⟨machine, budget⟩ hook with
      | .stop call => .stopped call
      | .fault fault state hook call => .faulted fault state.toMachine 0 hook call
      | .proceed state hook call =>
          match state.toMachine.effect with
          | .completed left cycles => .completed state.toMachine left cycles hook call
          | .faulted fault left cycles => .faulted fault left cycles hook call := by
  rw [Machine.pass, consult_exchange machine (.ofRequest 0) budget]
  cases consult ⟨machine, budget⟩ hook <;> rfl

/-- A turn is a pass that draws on the budget. -/
theorem turn_eq (machine : Machine) (budget : Budget) (hook : Option Hook) :
    turn ⟨machine, budget⟩ hook = (machine.pass hook).turn budget := by
  rw [turn, consult_exchange machine budget (.ofRequest 0), Machine.pass]
  cases consult ⟨machine, .ofRequest 0⟩ hook with
  | stop call => rfl
  | fault fault state hook call => simp [Machine.Pass.turn, Budget.charge]
  | proceed state hook call =>
    dsimp only
    rw [Access.instruction_eq]
    cases state.toMachine.effect <;> rfl

end Clocked

namespace Machine

variable {machine found left : Machine} {hook hook' : Option Hook} {cycles : Int}

/-- A pass completes the instruction of the machine that the hook left. -/
theorem effect_of_pass {call : Option HookCall}
    (passes : machine.pass hook = .completed found left cycles hook' call) :
    found.effect = .completed left cycles := by
  unfold pass at passes
  split at passes
  · cases passes
  · cases passes
  · split at passes
    · next effect =>
      cases passes
      exact effect
    · cases passes

theorem two_le_of_pass {call : Option HookCall}
    (passes : machine.pass hook = .completed found left cycles hook' call) : 2 ≤ cycles :=
  two_le_of_effect (effect_of_pass passes)

end Machine

/-! ## Runs that continue other runs -/

/-- The outcome when `spent` cycles were used before. -/
def Outcome.after (spent : Int) : Outcome → Outcome
  | .exhausted used => .exhausted (spent + used)
  | .stopped used => .stopped (spent + used)
  | .faulted fault => .faulted fault

/-- The run as the end of a longer one, which has used `spent` cycles and made `calls`
before. -/
def Run.resumed (run : Run) (spent : Int) (calls : List HookCall) : Run :=
  { run with outcome := run.outcome.after spent, calls := calls ++ run.calls }

@[simp] theorem Outcome.after_zero (outcome : Outcome) : outcome.after 0 = outcome := by
  cases outcome <;> simp [after]

@[simp] theorem Outcome.after_after (outcome : Outcome) (first second : Int) :
    (outcome.after second).after first = outcome.after (first + second) := by
  cases outcome <;> simp [after, Int.add_assoc]

theorem Outcome.after_eq_exhausted {outcome : Outcome} {spent used : Int} :
    outcome.after spent = .exhausted used ↔
      ∃ rest, outcome = .exhausted rest ∧ spent + rest = used := by
  cases outcome <;> simp [after]

theorem Outcome.after_eq_faulted {outcome : Outcome} {spent : Int} {fault : Fault} :
    outcome.after spent = .faulted fault ↔ outcome = .faulted fault := by
  cases outcome <;> simp [after]

theorem Outcome.result_eq_ok {outcome : Outcome} {used : Int} :
    outcome.result = .ok used ↔ outcome = .exhausted used ∨ outcome = .stopped used := by
  cases outcome <;> simp [result]

theorem Outcome.result_after_eq_ok {outcome : Outcome} {spent used : Int} :
    (outcome.after spent).result = .ok used ↔
      ∃ rest, outcome.result = .ok rest ∧ spent + rest = used := by
  cases outcome <;> simp [after, result]

@[simp] theorem Run.resumed_zero_nil (run : Run) : run.resumed 0 [] = run := by
  simp [resumed]

@[simp] theorem Run.resumed_resumed (run : Run) (first second : Int)
    (earlier later : List HookCall) :
    (run.resumed second later).resumed first earlier =
      run.resumed (first + second) (earlier ++ later) := by
  simp [resumed]

namespace Clocked

/-- The defining equation of a run, in terms of passes. -/
theorem runFrom_mk (machine : Machine) (budget : Budget) (hook : Option Hook)
    (earlier : List HookCall) :
    runFrom ⟨machine, budget⟩ hook earlier =
      if budget.remaining ≤ 0 then ⟨.exhausted budget.used, machine, hook, earlier.reverse⟩
      else
        match machine.pass hook with
        | .stopped call => ⟨.stopped budget.used, machine, hook, (call :: earlier).reverse⟩
        | .faulted fault left _ hook call =>
            ⟨.faulted fault, left, hook, (call.toList ++ earlier).reverse⟩
        | .completed _ left cycles hook call =>
            runFrom ⟨left, budget.charge cycles⟩ hook (call.toList ++ earlier) := by
  rw [runFrom_eq, turn_eq]
  simp only [Budget.exhausted_iff]
  split
  · rfl
  · cases machine.pass hook <;> rfl

theorem reverse_toList {α : Type} (value : Option α) : value.toList.reverse = value.toList := by
  cases value <;> rfl

/-- What was used and asked before shows in the numbers and in the list of a run, and
nowhere else: the budgets agree on what is left, so both runs take the same turns. -/
theorem runFrom_eq_resumed (machine : Machine) (hook : Option Hook) (budget fresh : Budget)
    (earlier : List HookCall) (same : budget.remaining = fresh.remaining) :
    runFrom ⟨machine, budget⟩ hook earlier =
      (runFrom ⟨machine, fresh⟩ hook []).resumed (budget.used - fresh.used) earlier.reverse := by
  -- By induction on what is left.  The tail is resumed twice, once after `budget` and once
  -- after `fresh`, and the two differ by what was used before the turn.
  generalize size : budget.remaining.toNat = bound
  induction bound using Nat.strongRecOn generalizing machine hook budget fresh earlier with
  | _ bound ih =>
    rw [runFrom_mk, runFrom_mk, ← same]
    by_cases le : budget.remaining ≤ 0
    · rw [if_pos le, if_pos le]
      simp [Run.resumed, Outcome.after]
    · rw [if_neg le, if_neg le]
      cases passes : machine.pass hook with
      | stopped call => simp [Run.resumed, Outcome.after]
      | faulted fault left cycles hook call =>
        simp [Run.resumed, Outcome.after, reverse_toList]
      | completed found left cycles hook call =>
        have spent := machine.two_le_of_pass passes
        have smaller : (budget.charge cycles).remaining.toNat < bound := by
          simp only [Budget.charge_remaining]; omega
        have agree : (budget.charge cycles).remaining = (fresh.charge cycles).remaining := by
          simp [same]
        dsimp only
        rw [ih _ smaller left hook _ _ _ agree rfl,
          ih _ smaller left hook (fresh.charge cycles) _ (call.toList ++ []) rfl
            (congrArg Int.toNat agree.symm)]
        simp only [Run.resumed_resumed, Budget.used_charge, Int.add_sub_add_right, Int.sub_self,
          Int.add_zero, List.reverse_append, List.append_nil, reverse_toList]

end Clocked

namespace Machine

/-- **A run is a recursion on the cycles it is given.** -/
theorem execute_eq (machine : Machine) (hook : Option Hook) (cycles : Int) :
    machine.execute hook cycles =
      if cycles ≤ 0 then ⟨.exhausted 0, machine, hook, []⟩
      else
        match machine.pass hook with
        | .stopped call => ⟨.stopped 0, machine, hook, [call]⟩
        | .faulted fault left _ hook call => ⟨.faulted fault, left, hook, call.toList⟩
        | .completed _ left spent hook call =>
            (left.execute hook (cycles - spent)).resumed spent call.toList := by
  have start : machine.clocked cycles = ⟨machine, .ofRequest cycles⟩ := rfl
  have left : (Budget.ofRequest cycles).remaining = cycles := rfl
  rw [execute, start, Clocked.runFrom_mk, Budget.used_ofRequest, left]
  by_cases le : cycles ≤ 0
  · rw [if_pos le, if_pos le]
    rfl
  · rw [if_neg le, if_neg le]
    cases machine.pass hook with
    | stopped call => rfl
    | faulted fault left spent hook call => simp [Clocked.reverse_toList]
    | completed found left spent hook call =>
      have same : ((Budget.ofRequest cycles).charge spent).remaining =
          (Budget.ofRequest (cycles - spent)).remaining := rfl
      dsimp only
      rw [Clocked.runFrom_eq_resumed left hook _ _ _ same]
      simp [Clocked.reverse_toList, execute, clocked]

variable {machine found left : Machine} {hook hook' : Option Hook} {cycles spent : Int}
variable {fault : Fault}

theorem execute_of_nonpos (machine : Machine) (hook : Option Hook) (le : cycles ≤ 0) :
    machine.execute hook cycles = ⟨.exhausted 0, machine, hook, []⟩ := by
  rw [execute_eq, if_pos le]

theorem execute_of_stopped {call : HookCall} (pos : 0 < cycles)
    (passes : machine.pass hook = .stopped call) :
    machine.execute hook cycles = ⟨.stopped 0, machine, hook, [call]⟩ := by
  rw [execute_eq, if_neg (Int.not_le.mpr pos), passes]

theorem execute_of_faulted {call : Option HookCall} (pos : 0 < cycles)
    (passes : machine.pass hook = .faulted fault left spent hook' call) :
    machine.execute hook cycles = ⟨.faulted fault, left, hook', call.toList⟩ := by
  rw [execute_eq, if_neg (Int.not_le.mpr pos), passes]

theorem execute_of_completed {call : Option HookCall} (pos : 0 < cycles)
    (passes : machine.pass hook = .completed found left spent hook' call) :
    machine.execute hook cycles =
      (left.execute hook' (cycles - spent)).resumed spent call.toList := by
  rw [execute_eq, if_neg (Int.not_le.mpr pos), passes]

/-- **The induction of runs.**  A completed turn hands a smaller number of cycles on; all
other ways a turn can end also end the run. -/
theorem run_induction {motive : Machine → Option Hook → Int → Prop}
    (exhausted : ∀ machine hook cycles, cycles ≤ 0 → motive machine hook cycles)
    (stopped : ∀ machine hook cycles call, 0 < cycles → machine.pass hook = .stopped call →
      motive machine hook cycles)
    (faulted : ∀ machine hook cycles fault left spent hook' call, 0 < cycles →
      machine.pass hook = .faulted fault left spent hook' call → motive machine hook cycles)
    (completed : ∀ machine hook cycles found left spent hook' call, 0 < cycles →
      machine.pass hook = .completed found left spent hook' call →
      motive left hook' (cycles - spent) → motive machine hook cycles)
    (machine : Machine) (hook : Option Hook) (cycles : Int) : motive machine hook cycles := by
  generalize size : cycles.toNat = bound
  induction bound using Nat.strongRecOn generalizing machine hook cycles with
  | _ bound ih =>
    by_cases le : cycles ≤ 0
    · exact exhausted machine hook cycles le
    · have pos := Int.not_le.mp le
      cases passes : machine.pass hook with
      | stopped call => exact stopped machine hook cycles call pos passes
      | faulted fault left spent hook' call =>
        exact faulted machine hook cycles fault left spent hook' call pos passes
      | completed found left spent hook' call =>
        have := two_le_of_pass passes
        refine completed machine hook cycles found left spent hook' call pos passes ?_
        exact ih (cycles - spent).toNat (by omega) left hook' (cycles - spent) rfl

end Machine

/-! ## The journal -/

/-- A completed instruction: the machine it began on and the machine it left. -/
structure Entry where
  before : Machine
  after : Machine

/-- The instruction was a call. -/
def Entry.isCall (entry : Entry) : Bool :=
  entry.before.row?.any fun row => row.operation == .jsr

theorem Entry.isCall_of_load {before after : Machine} {row : Instruction}
    (found : before.row? = some row) (load : row.operation = .lda) :
    isCall ⟨before, after⟩ = false := by
  rw [isCall, found, Option.any_some, load]
  rfl

theorem Entry.isCall_of_call {before after : Machine} {row : Instruction}
    (found : before.row? = some row) (jump : row.operation = .jsr) :
    isCall ⟨before, after⟩ = true := by
  rw [isCall, found, Option.any_some, jump]
  rfl

/-- The instruction that a machine has before it: its address and its opcode. -/
def Machine.site (machine : Machine) : HookCall := ⟨machine.registers.pc, machine.opcode⟩

/-- The instruction that an entry completed. -/
def Entry.site (entry : Entry) : HookCall := entry.before.site

/-- The instructions that a run completes from here on, in order.  The turns are those of
`Clocked.runFrom`. -/
def Clocked.journalFrom (state : Clocked) (hook : Option Hook) : List Entry :=
  if state.budget.exhausted then []
  else
    match _consulted : state.consult hook with
    | .stop _ => []
    | .fault _ _ _ _ => []
    | .proceed found hook _ =>
        match _runs : Access.instruction found with
        | .error _ _ => []
        | .ok () left => ⟨found.toMachine, left.toMachine⟩ :: left.journalFrom hook
termination_by state.budget.remaining.toNat
decreasing_by
  have := Access.spends_instruction _ _ _ (by assumption)
  have := Clocked.budget_of_consult (by assumption)
  simp_all
  omega

/-- The instructions that a run completes, in order. -/
def Machine.journal (machine : Machine) (hook : Option Hook) (cycles : Int) : List Entry :=
  (machine.clocked cycles).journalFrom hook

namespace Clocked

/-- The defining equation of a journal, in terms of passes. -/
theorem journalFrom_mk (machine : Machine) (budget : Budget) (hook : Option Hook) :
    journalFrom ⟨machine, budget⟩ hook =
      if budget.remaining ≤ 0 then []
      else
        match machine.pass hook with
        | .completed found left cycles hook _ =>
            ⟨found, left⟩ :: journalFrom ⟨left, budget.charge cycles⟩ hook
        | _ => [] := by
  rw [journalFrom, pass_eq machine budget]
  simp only [Budget.exhausted_iff]
  by_cases le : budget.remaining ≤ 0
  · rw [if_pos le, if_pos le]
  · rw [if_neg le, if_neg le]
    -- The matches of the definition carry proofs for its termination, so they are split here
    -- rather than rewritten.
    split
    · next consulted => rw [consulted]
    · next consulted => rw [consulted]
    · next found hook call consulted =>
      have kept : found.budget = budget := budget_of_consult consulted
      rw [consulted]
      dsimp only
      split
      · next fault state runs =>
        rw [Access.instruction_eq] at runs
        cases effect : found.toMachine.effect with
        | completed left cycles => rw [effect] at runs; cases runs
        | faulted fault left cycles => rfl
      · next state runs =>
        rw [Access.instruction_eq] at runs
        cases effect : found.toMachine.effect with
        | completed left cycles =>
          rw [effect, kept] at runs
          cases runs
          rfl
        | faulted fault left cycles => rw [effect] at runs; cases runs

/-- A journal depends on what is left of the budget, not on what was asked for. -/
theorem journalFrom_congr (machine : Machine) (hook : Option Hook) (budget fresh : Budget)
    (same : budget.remaining = fresh.remaining) :
    journalFrom ⟨machine, budget⟩ hook = journalFrom ⟨machine, fresh⟩ hook := by
  generalize size : budget.remaining.toNat = bound
  induction bound using Nat.strongRecOn generalizing machine hook budget fresh with
  | _ bound ih =>
    rw [journalFrom_mk, journalFrom_mk, ← same]
    by_cases le : budget.remaining ≤ 0
    · rw [if_pos le, if_pos le]
    · rw [if_neg le, if_neg le]
      cases passes : machine.pass hook with
      | stopped call => rfl
      | faulted fault left cycles hook call => rfl
      | completed found left cycles hook call =>
        have := machine.two_le_of_pass passes
        dsimp only
        rw [ih (budget.charge cycles).remaining.toNat _ left hook _ (fresh.charge cycles) _ rfl]
        · simp only [Budget.charge_remaining]; omega
        · simp [same]

end Clocked

namespace Machine

variable {machine found left : Machine} {hook hook' : Option Hook} {cycles spent : Int}

/-- **A journal is a recursion on the cycles of its run.** -/
theorem journal_eq (machine : Machine) (hook : Option Hook) (cycles : Int) :
    machine.journal hook cycles =
      if cycles ≤ 0 then []
      else
        match machine.pass hook with
        | .completed found left spent hook _ => ⟨found, left⟩ :: left.journal hook (cycles - spent)
        | _ => [] := by
  have start : machine.clocked cycles = ⟨machine, .ofRequest cycles⟩ := rfl
  have left : (Budget.ofRequest cycles).remaining = cycles := rfl
  rw [journal, start, Clocked.journalFrom_mk, left]
  split
  · rfl
  · cases machine.pass hook with
    | stopped call => rfl
    | faulted fault left spent hook call => rfl
    | completed found left spent hook call =>
      have same : ((Budget.ofRequest cycles).charge spent).remaining =
          (Budget.ofRequest (cycles - spent)).remaining := rfl
      dsimp only
      rw [Clocked.journalFrom_congr left hook _ _ same]
      rfl

theorem journal_of_nonpos (machine : Machine) (hook : Option Hook) (le : cycles ≤ 0) :
    machine.journal hook cycles = [] := by
  rw [journal_eq, if_pos le]

theorem journal_of_stopped {call : HookCall} (passes : machine.pass hook = .stopped call) :
    machine.journal hook cycles = [] := by
  rw [journal_eq, passes]
  exact ite_self []

theorem journal_of_faulted {fault : Fault} {call : Option HookCall}
    (passes : machine.pass hook = .faulted fault left spent hook' call) :
    machine.journal hook cycles = [] := by
  rw [journal_eq, passes]
  exact ite_self []

theorem journal_of_completed {call : Option HookCall} (pos : 0 < cycles)
    (passes : machine.pass hook = .completed found left spent hook' call) :
    machine.journal hook cycles = ⟨found, left⟩ :: left.journal hook' (cycles - spent) := by
  rw [journal_eq, if_neg (Int.not_le.mpr pos), passes]

/-- An entry of a journal is an instruction and what it did. -/
theorem effect_of_mem_journal (machine : Machine) (hook : Option Hook) (cycles : Int) :
    ∀ entry ∈ machine.journal hook cycles, ∃ spent,
      entry.before.effect = .completed entry.after spent := by
  induction machine, hook, cycles using run_induction with
  | exhausted machine hook cycles le => simp [journal_of_nonpos machine hook le]
  | stopped machine hook cycles call pos passes => simp [journal_of_stopped passes]
  | faulted machine hook cycles fault left spent hook' call pos passes =>
    simp [journal_of_faulted passes]
  | completed machine hook cycles found left spent hook' call pos passes ih =>
    rw [journal_of_completed pos passes]
    intro entry member
    rcases List.mem_cons.mp member with rfl | later
    · exact ⟨spent, effect_of_pass passes⟩
    · exact ih entry later

/-! ## Runs without a hook -/

theorem pass_none (machine : Machine) :
    machine.pass none =
      match machine.effect with
      | .completed left spent => .completed machine left spent none none
      | .faulted fault left spent => .faulted fault left spent none none := rfl

theorem pass_of_effect (effect : machine.effect = .completed left spent) :
    machine.pass none = .completed machine left spent none none := by
  rw [pass_none, effect]

theorem pass_of_fault {fault : Fault} (effect : machine.effect = .faulted fault left spent) :
    machine.pass none = .faulted fault left spent none none := by
  rw [pass_none, effect]

/-- The run of a machine without a hook, once the effect of its first instruction is
known. -/
theorem execute_of_effect (pos : 0 < cycles) (effect : machine.effect = .completed left spent) :
    machine.execute none cycles = (left.execute none (cycles - spent)).resumed spent [] :=
  execute_of_completed pos (pass_of_effect effect)

theorem execute_of_fault {fault : Fault} (pos : 0 < cycles)
    (effect : machine.effect = .faulted fault left spent) :
    machine.execute none cycles = ⟨.faulted fault, left, none, []⟩ :=
  execute_of_faulted pos (pass_of_fault effect)

theorem journal_of_effect (pos : 0 < cycles) (effect : machine.effect = .completed left spent) :
    machine.journal none cycles = ⟨machine, left⟩ :: left.journal none (cycles - spent) :=
  journal_of_completed pos (pass_of_effect effect)

theorem journal_of_fault {fault : Fault} (effect : machine.effect = .faulted fault left spent) :
    machine.journal none cycles = [] :=
  journal_of_faulted (pass_of_fault effect)

/-- A step without a hook is one effect: the two cycles or more that an instruction takes
use up the one cycle of a step. -/
theorem step_of_effect (effect : machine.effect = .completed left spent) :
    machine.step none = ⟨.exhausted spent, left, none, []⟩ := by
  have := two_le_of_effect effect
  rw [step, execute_of_effect (by omega) effect, execute_of_nonpos left none (by omega)]
  simp [Run.resumed, Outcome.after]

theorem step_of_fault {fault : Fault} (effect : machine.effect = .faulted fault left spent) :
    machine.step none = ⟨.faulted fault, left, none, []⟩ :=
  execute_of_fault (by omega) effect

/-- The induction of runs without a hook. -/
theorem bare_run_induction {motive : Machine → Int → Prop}
    (exhausted : ∀ machine cycles, cycles ≤ 0 → motive machine cycles)
    (faulted : ∀ machine cycles fault left spent, 0 < cycles →
      machine.effect = .faulted fault left spent → motive machine cycles)
    (completed : ∀ machine cycles left spent, 0 < cycles →
      machine.effect = .completed left spent → motive left (cycles - spent) →
      motive machine cycles)
    (machine : Machine) (cycles : Int) : motive machine cycles := by
  generalize size : cycles.toNat = bound
  induction bound using Nat.strongRecOn generalizing machine cycles with
  | _ bound ih =>
    by_cases le : cycles ≤ 0
    · exact exhausted machine cycles le
    · have pos := Int.not_le.mp le
      cases effect : machine.effect with
      | faulted fault left spent => exact faulted machine cycles fault left spent pos effect
      | completed left spent =>
        have := two_le_of_effect effect
        refine completed machine cycles left spent pos effect ?_
        exact ih (cycles - spent).toNat (by omega) left (cycles - spent) rfl

/-- A run without a hook consults nobody and ends without a hook. -/
theorem bare_run_hook (machine : Machine) (cycles : Int) :
    (machine.execute none cycles).hook = none ∧ (machine.execute none cycles).calls = [] := by
  induction machine, cycles using bare_run_induction with
  | exhausted machine cycles le => simp [execute_of_nonpos machine none le]
  | faulted machine cycles fault left spent pos effect => simp [execute_of_fault pos effect]
  | completed machine cycles left spent pos effect ih =>
    rw [execute_of_effect pos effect]
    simpa [Run.resumed] using ih

/-- The machine that some instructions lead to, one after the other. -/
def reached (machine : Machine) : List Entry → Machine
  | [] => machine
  | entry :: rest => entry.after.reached rest

@[simp] theorem reached_nil (machine : Machine) : machine.reached [] = machine := rfl

@[simp] theorem reached_cons (machine : Machine) (entry : Entry) (rest : List Entry) :
    machine.reached (entry :: rest) = entry.after.reached rest := rfl

/-- Each entry begins on the machine that the one before it left, and the first one on
`machine`. -/
def Linked (machine : Machine) : List Entry → Prop
  | [] => True
  | entry :: rest => entry.before = machine ∧ entry.after.Linked rest

/-- The beginning of a chain is a chain. -/
theorem Linked.take {entries : List Entry} (linked : machine.Linked entries) (count : Nat) :
    machine.Linked (entries.take count) := by
  induction entries generalizing machine count with
  | nil => rw [List.take_nil]; trivial
  | cons entry rest ih =>
    cases count with
    | zero => trivial
    | succ count => exact ⟨linked.1, ih linked.2 count⟩

/-- Without a hook nothing happens between two instructions. -/
theorem linked_journal (machine : Machine) (cycles : Int) :
    machine.Linked (machine.journal none cycles) := by
  induction machine, cycles using bare_run_induction with
  | exhausted machine cycles le => rw [journal_of_nonpos machine none le]; trivial
  | faulted machine cycles fault left spent pos effect => rw [journal_of_fault effect]; trivial
  | completed machine cycles left spent pos effect ih =>
    rw [journal_of_effect pos effect]
    exact ⟨rfl, ih⟩

/-- What every completed instruction keeps holds at each instruction of a run and where its
instructions lead to. -/
theorem kept_along_journal (Kept : Machine → Prop)
    (keeps : ∀ {machine left spent}, Kept machine → machine.effect = .completed left spent →
      Kept left)
    (machine : Machine) (cycles : Int) (first : Kept machine) :
    (∀ entry ∈ machine.journal none cycles, Kept entry.before) ∧
      Kept (machine.reached (machine.journal none cycles)) := by
  induction machine, cycles using bare_run_induction with
  | exhausted machine cycles le =>
    rw [journal_of_nonpos machine none le]
    refine ⟨?_, first⟩
    rintro entry ⟨⟩
  | faulted machine cycles fault left spent pos effect =>
    rw [journal_of_fault effect]
    refine ⟨?_, first⟩
    rintro entry ⟨⟩
  | completed machine cycles left spent pos effect ih =>
    obtain ⟨all, last⟩ := ih (keeps first effect)
    rw [journal_of_effect pos effect]
    refine ⟨?_, last⟩
    intro entry member
    rcases List.mem_cons.mp member with rfl | later
    · exact first
    · exact all entry later

/-- **How a run without a hook ends**: on the machine its instructions lead to, or in the
fault of the instruction that comes next there. -/
theorem bare_run_end (machine : Machine) (cycles : Int) :
    (∃ used, (machine.execute none cycles).outcome = .exhausted used ∧
        (machine.execute none cycles).machine =
          machine.reached (machine.journal none cycles)) ∨
      ∃ fault spent, (machine.execute none cycles).outcome = .faulted fault ∧
        (machine.reached (machine.journal none cycles)).effect =
          .faulted fault (machine.execute none cycles).machine spent := by
  -- Every completed turn is the first entry of the journal, so the end is the one of the rest.
  induction machine, cycles using bare_run_induction with
  | exhausted machine cycles le =>
    rw [execute_of_nonpos machine none le, journal_of_nonpos machine none le]
    exact .inl ⟨0, rfl, rfl⟩
  | faulted machine cycles fault left spent pos effect =>
    rw [execute_of_fault pos effect, journal_of_fault effect]
    exact .inr ⟨fault, spent, rfl, effect⟩
  | completed machine cycles left spent pos effect ih =>
    rw [execute_of_effect pos effect, journal_of_effect pos effect, reached_cons]
    rcases ih with ⟨used, outcome, same⟩ | ⟨fault, charged, outcome, faults⟩
    · exact .inl ⟨spent + used, by simp [Run.resumed, outcome, Outcome.after], same⟩
    · exact .inr ⟨fault, charged, by simp [Run.resumed, outcome, Outcome.after], faults⟩

/-- A machine after power-on that finds `program` at its program counter. -/
def holding (stackMode : StackMode) (program : List UInt8) : Machine :=
  { stackMode, memory := Memory.blank.setAll 0xFFFC program }

end Machine

end Machine6502
