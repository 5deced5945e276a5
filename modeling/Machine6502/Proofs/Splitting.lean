import Machine6502.Proofs.Journal

/-!
# Splitting a run

A run may be cut at any number of cycles and taken up again from where the first part
ended.  The first part may use more than it was given, since its last instruction is never
cut short, so the second part is given what is then left of the whole; it starts with the
hook as the first part left it.  If the first part faulted or was stopped, it is already
the whole run.

`Run.continued` states this as one function on runs, `Machine.execute_add_eq` is the
induction, and `Machine.execute_add` spells the three cases out.  The other extreme is to
cut after every instruction: `Machine.stepUntil` is the loop that does so.
-/

namespace Machine6502

/-- The run taken further, up to `cycles` in all.  A run that faulted or was stopped has
ended for good. -/
def Run.continued (run : Run) (cycles : Int) : Run :=
  match run.outcome with
  | .exhausted used => (run.machine.execute run.hook (cycles - used)).resumed used run.calls
  | .stopped _ => run
  | .faulted _ => run

theorem Run.continued_resumed (run : Run) (spent cycles : Int) (calls : List HookCall) :
    (run.resumed spent calls).continued cycles =
      (run.continued (cycles - spent)).resumed spent calls := by
  obtain ⟨outcome, machine, hook, later⟩ := run
  cases outcome with
  | exhausted used =>
    have rest : cycles - (spent + used) = cycles - spent - used := by omega
    show (machine.execute hook (cycles - (spent + used))).resumed (spent + used) (calls ++ later) =
      ((machine.execute hook (cycles - spent - used)).resumed used later).resumed spent calls
    rw [resumed_resumed, rest]
  | stopped used => rfl
  | faulted fault => rfl

namespace Machine

/-- A longer run is a shorter one, continued.  By induction on the shorter run: until it
ends, both take the same turns, and the longer one has always `more` cycles to go on. -/
theorem execute_add_eq (machine : Machine) (hook : Option Hook) (first more : Int)
    (nonneg : 0 ≤ more) :
    machine.execute hook (first + more) =
      (machine.execute hook first).continued (first + more) := by
  induction machine, hook, first using run_induction with
  | exhausted machine hook first le =>
    rw [execute_of_nonpos machine hook le, Run.continued]
    simp
  | stopped machine hook first call pos passes =>
    rw [execute_of_stopped pos passes, execute_of_stopped (by omega) passes]
    rfl
  | faulted machine hook first fault left spent hook' call pos passes =>
    rw [execute_of_faulted pos passes, execute_of_faulted (by omega) passes]
    rfl
  | completed machine hook first found left spent hook' call pos passes ih =>
    have shift : first + more - spent = first - spent + more := by omega
    rw [execute_of_completed pos passes, execute_of_completed (by omega) passes,
      Run.continued_resumed, shift, ih]

/-- A run that ended because nothing was left has used what it was given, or more. -/
theorem le_used_of_exhausted (machine : Machine) (hook : Option Hook) (cycles : Int) :
    ∀ used, (machine.execute hook cycles).outcome = .exhausted used → cycles ≤ used := by
  induction machine, hook, cycles using run_induction with
  | exhausted machine hook cycles le =>
    intro used outcome
    rw [execute_of_nonpos machine hook le] at outcome
    cases outcome
    exact le
  | stopped machine hook cycles call pos passes =>
    intro used outcome
    rw [execute_of_stopped pos passes] at outcome
    cases outcome
  | faulted machine hook cycles fault left spent hook' call pos passes =>
    intro used outcome
    rw [execute_of_faulted pos passes] at outcome
    cases outcome
  | completed machine hook cycles found left spent hook' call pos passes ih =>
    intro used outcome
    rw [execute_of_completed pos passes] at outcome
    obtain ⟨more, rest, rfl⟩ := Outcome.after_eq_exhausted.mp outcome
    have := ih more rest
    omega

/-! ## A run as a loop of single steps -/

/-- Calls `step` until the cycles used add up to `goal`, or until a step faults or is
stopped.  `total` and `calls` are what the steps so far have used and asked. -/
def stepUntil (machine : Machine) (hook : Option Hook) (goal total : Int)
    (calls : List HookCall) : Run :=
  if goal ≤ total then ⟨.exhausted total, machine, hook, calls⟩
  else
    match _steps : (machine.step hook).outcome with
    | .exhausted used =>
        (machine.step hook).machine.stepUntil (machine.step hook).hook goal (total + used)
          (calls ++ (machine.step hook).calls)
    | .stopped _ => (machine.step hook).resumed total calls
    | .faulted _ => (machine.step hook).resumed total calls
termination_by (goal - total).toNat
decreasing_by
  have := le_used_of_exhausted _ _ _ _ (by assumption)
  omega

/-- The defining equation of the loop. -/
theorem stepUntil_mk (machine : Machine) (hook : Option Hook) (goal total : Int)
    (calls : List HookCall) :
    machine.stepUntil hook goal total calls =
      if goal ≤ total then ⟨.exhausted total, machine, hook, calls⟩
      else
        match (machine.step hook).outcome with
        | .exhausted used =>
            (machine.step hook).machine.stepUntil (machine.step hook).hook goal (total + used)
              (calls ++ (machine.step hook).calls)
        | .stopped _ => (machine.step hook).resumed total calls
        | .faulted _ => (machine.step hook).resumed total calls := by
  rw [stepUntil]
  split
  · rfl
  · split
    · next steps => rw [steps]
    · next steps => rw [steps]
    · next steps => rw [steps]

/-- A run with something left of its budget begins with a step. -/
theorem execute_eq_step_continued (machine : Machine) (hook : Option Hook) {cycles : Int}
    (pos : 0 < cycles) :
    machine.execute hook cycles = (machine.step hook).continued cycles := by
  have whole : (1 : Int) + (cycles - 1) = cycles := by omega
  have split := machine.execute_add_eq hook 1 (cycles - 1) (by omega)
  rwa [whole] at split

/-- The loop is a run that is resumed after `total` cycles. -/
theorem stepUntil_eq (machine : Machine) (hook : Option Hook) (goal total : Int)
    (calls : List HookCall) :
    machine.stepUntil hook goal total calls =
      (machine.execute hook (goal - total)).resumed total calls := by
  -- The induction is the recursion of the loop itself.  Its last two cases are the steps that
  -- end a run, and there `Run.continued` has nothing to add.
  induction machine, hook, total, calls using stepUntil.induct goal with
  | case1 machine hook total calls reached =>
    rw [stepUntil_mk, if_pos reached, execute_of_nonpos machine hook (by omega)]
    simp [Run.resumed, Outcome.after]
  | case2 machine hook total calls unmet used steps ih =>
    have rest : goal - (total + used) = goal - total - used := by omega
    rw [stepUntil_mk, if_neg unmet, steps, machine.execute_eq_step_continued hook (by omega),
      Run.continued, steps]
    dsimp only
    rw [ih, rest, Run.resumed_resumed]
  | case3 machine hook total calls unmet used steps =>
    rw [stepUntil_mk, if_neg unmet, steps, machine.execute_eq_step_continued hook (by omega),
      Run.continued, steps]
  | case4 machine hook total calls unmet fault steps =>
    rw [stepUntil_mk, if_neg unmet, steps, machine.execute_eq_step_continued hook (by omega),
      Run.continued, steps]

/-- **Splitting a run is invisible.**  Let a run be given `first` cycles and another one,
from the same start, `more` cycles on top.  If the first run faults or is stopped by its
hook, the second is the very same run.  Otherwise the second is the first, followed by a run
on the cycles that are then left.  And every run is a loop of single steps. -/
theorem execute_add (machine : Machine) (hook : Option Hook) (first more : Int)
    (nonneg : 0 ≤ more) :
    let opening := machine.execute hook first
    let whole := machine.execute hook (first + more)
    (∀ fault, opening.outcome = .faulted fault → whole = opening) ∧
      (∀ used, opening.outcome = .stopped used → whole = opening) ∧
      (∀ used, opening.outcome = .exhausted used →
        let rest := opening.machine.execute opening.hook (first + more - used)
        whole.outcome = rest.outcome.after used ∧ whole.machine = rest.machine ∧
          whole.hook = rest.hook ∧ whole.calls = opening.calls ++ rest.calls) ∧
      ∀ cycles, machine.execute hook cycles = machine.stepUntil hook cycles 0 [] := by
  intro opening whole
  have continued : whole = opening.continued (first + more) :=
    execute_add_eq machine hook first more nonneg
  refine ⟨?_, ?_, ?_, ?_⟩
  · intro fault faulted
    rw [continued, Run.continued, faulted]
  · intro used stopped
    rw [continued, Run.continued, stopped]
  · intro used exhausted rest
    rw [continued, Run.continued, exhausted]
    exact ⟨rfl, rfl, rfl, rfl⟩
  · intro cycles
    rw [stepUntil_eq, Int.sub_zero, Run.resumed_zero_nil]

/-- A load that is given one cycle uses four.  The hook that lets one instruction pass has
counted it when the run is taken up again, and stops there. -/
theorem execute_add_load :
    let machine := holding .flat [0xAD, 0x00, 0x02, 0xA2]
    let hook : Hook := { limit := some 1 }
    let opening := machine.execute (some hook) 1
    (0 : Int) ≤ 5 ∧ opening.outcome = .exhausted 4 ∧
      opening.calls = [⟨0xFFFC, 0xAD⟩] ∧
      (opening.machine.execute opening.hook 2).outcome = .stopped 0 ∧
      (machine.execute (some hook) 6).outcome = .stopped 4 ∧
      (machine.execute (some hook) 6).calls = [⟨0xFFFC, 0xAD⟩, ⟨0xFFFF, 0xA2⟩] := by
  intro machine hook opening
  have used : opening.outcome = .exhausted 4 := by decide +kernel
  have first : opening.calls = [⟨0xFFFC, 0xAD⟩] := by decide +kernel
  have rest : (opening.machine.execute opening.hook 2).outcome = .stopped 0 := by decide +kernel
  have second : (opening.machine.execute opening.hook 2).calls = [⟨0xFFFF, 0xA2⟩] := by
    decide +kernel
  obtain ⟨-, -, continues, -⟩ := execute_add machine (some hook) 1 5 (by decide)
  obtain ⟨outcome, -, -, calls⟩ := continues 4 used
  refine ⟨by decide, used, first, rest, ?_, ?_⟩
  · exact outcome.trans (congrArg (Outcome.after 4) rest)
  · have joined : (machine.execute (some hook) 6).calls =
        opening.calls ++ (opening.machine.execute opening.hook 2).calls := calls
    rw [joined, first, second]
    rfl

end Machine

end Machine6502
