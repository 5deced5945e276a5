import Machine6502.Proofs.Journal

/-!
# How long a run takes

Whatever a hook does to the memory and to the program counter between two instructions, every
turn of the loop that completes takes at least two cycles and at most six.  The lower bound ends
the loop, and it bounds how often a hook is asked; the upper bound says how far the last
instruction can take a run beyond its budget.

The recursion of `Clocked.runFrom` already rests on the lower bound.  `Clocked.unroll` is the
loop without it: a number of turns, with no say on what happens after them.

* `Clocked.unroll` — some turns of the loop, and whether it has ended by then.
* `Outcome.Within` — a run used what it was given, and five cycles more at most.
* `Machine.calls_length_le`, `Machine.journal_length_le`, `Machine.within_of_run` — how often a
  hook is asked, what a number of instructions takes, and what a run makes of its budget.
* `Machine.execute_duration` — all of this for a run.
-/

namespace Machine6502

/-- What a run that was given some cycles makes of them: it uses them up and five more at most,
or its hook stops it before, or it faults. -/
def Outcome.Within (cycles : Int) : Outcome → Prop
  | .exhausted used => cycles ≤ used ∧ used ≤ cycles + 5
  | .stopped used => used < cycles
  | .faulted _ => True

theorem Outcome.Within.after {outcome : Outcome} {cycles spent : Int}
    (within : outcome.Within (cycles - spent)) : (outcome.after spent).Within cycles := by
  cases outcome <;> simp only [Outcome.after, Within] at within ⊢ <;> omega

namespace Clocked

/-- At most `turns` turns of the loop of a run, or nothing when the loop goes on after them. -/
def unroll : (turns : Nat) → (state : Clocked) → (hook : Option Hook) →
    (earlier : List HookCall) → Option Run
  | 0, state, hook, earlier =>
      if state.budget.exhausted then
        some (state.finish (.exhausted state.budget.used) hook earlier)
      else none
  | turns + 1, state, hook, earlier =>
      if state.budget.exhausted then
        some (state.finish (.exhausted state.budget.used) hook earlier)
      else
        match state.turn hook with
        | .stopped call => some (state.finish (.stopped state.budget.used) hook (call :: earlier))
        | .faulted fault state hook call =>
            some (state.finish (.faulted fault) hook (call.toList ++ earlier))
        | .completed state hook call => unroll turns state hook (call.toList ++ earlier)

/-- **The loop ends**, after one turn for every two cycles that are left. -/
theorem unroll_eq (turns : Nat) (state : Clocked) (hook : Option Hook) (earlier : List HookCall)
    (enough : state.budget.remaining ≤ 2 * turns) :
    unroll turns state hook earlier = some (state.runFrom hook earlier) := by
  induction turns generalizing state hook earlier with
  | zero =>
    have exhausted : state.budget.exhausted :=
      state.budget.exhausted_iff.mpr (by simpa using enough)
    rw [unroll, runFrom_eq, if_pos exhausted, if_pos exhausted]
  | succ turns ih =>
    rw [unroll, runFrom_eq]
    split
    · rfl
    · cases turned : state.turn hook with
      | stopped call => rfl
      | faulted fault left hook' call => rfl
      | completed left hook' call =>
        have := remaining_of_turn turned
        exact ih left hook' _ (by omega)

end Clocked

namespace Machine

variable {machine found left : Machine} {hook hook' : Option Hook} {cycles spent : Int}

theorem le_six_of_pass {call : Option HookCall}
    (passes : machine.pass hook = .completed found left spent hook' call) : spent ≤ 6 :=
  le_six_of_effect (effect_of_pass passes)

/-- A hook is asked at most once for every two cycles. -/
theorem calls_length_le (machine : Machine) (hook : Option Hook) (cycles : Int) (pos : 0 < cycles) :
    2 * ((machine.execute hook cycles).calls.length : Int) ≤ cycles + 1 := by
  have one (call : Option HookCall) : call.toList.length ≤ 1 := by cases call <;> simp
  induction machine, hook, cycles using run_induction with
  | exhausted machine hook cycles le => omega
  | stopped machine hook cycles call _ passes =>
    rw [execute_of_stopped pos passes, List.length_singleton]
    omega
  | faulted machine hook cycles fault left spent hook' call _ passes =>
    have := one call
    rw [execute_of_faulted pos passes]
    dsimp only
    omega
  | completed machine hook cycles found left spent hook' call _ passes ih =>
    have := one call
    have := two_le_of_pass passes
    rw [execute_of_completed pos passes, Run.resumed, List.length_append]
    -- The last instruction may leave nothing of the budget; then the hook is not asked again.
    by_cases le : cycles - spent ≤ 0
    · rw [execute_of_nonpos left hook' le, List.length_nil]
      omega
    · have := ih (Int.not_le.mp le)
      omega

/-- What a run that returns has used lies between two and six cycles for each of its
instructions. -/
theorem journal_length_le (machine : Machine) (hook : Option Hook) (cycles : Int) :
    ∀ used, (machine.execute hook cycles).outcome.result = .ok used →
      2 * ((machine.journal hook cycles).length : Int) ≤ used ∧
        used ≤ 6 * (machine.journal hook cycles).length := by
  induction machine, hook, cycles using run_induction with
  | exhausted machine hook cycles le =>
    intro used returns
    rw [execute_of_nonpos machine hook le] at returns
    cases returns
    simp [journal_of_nonpos machine hook le]
  | stopped machine hook cycles call pos passes =>
    intro used returns
    rw [execute_of_stopped pos passes] at returns
    cases returns
    simp [journal_of_stopped passes]
  | faulted machine hook cycles fault left spent hook' call pos passes =>
    intro used returns
    rw [execute_of_faulted pos passes] at returns
    cases returns
  | completed machine hook cycles found left spent hook' call pos passes ih =>
    intro used returns
    rw [execute_of_completed pos passes] at returns
    obtain ⟨more, rest, rfl⟩ := Outcome.result_after_eq_ok.mp returns
    have := ih more rest
    have := two_le_of_pass passes
    have := le_six_of_pass passes
    rw [journal_of_completed pos passes, List.length_cons]
    omega

/-- A run overshoots by five cycles at most: its last instruction was begun with one cycle or
more to go, and it takes six at most. -/
theorem within_of_run (machine : Machine) (hook : Option Hook) (cycles : Int) (pos : 0 < cycles) :
    (machine.execute hook cycles).outcome.Within cycles := by
  induction machine, hook, cycles using run_induction with
  | exhausted machine hook cycles le => omega
  | stopped machine hook cycles call _ passes =>
    rw [execute_of_stopped pos passes]
    exact pos
  | faulted machine hook cycles fault left spent hook' call _ passes =>
    rw [execute_of_faulted pos passes]
    trivial
  | completed machine hook cycles found left spent hook' call _ passes ih =>
    rw [execute_of_completed pos passes]
    by_cases le : cycles - spent ≤ 0
    · have := le_six_of_pass passes
      rw [execute_of_nonpos left hook' le]
      show cycles ≤ spent + 0 ∧ spent + 0 ≤ cycles + 5
      omega
    · exact (ih (Int.not_le.mp le)).after

/-- **A run always ends, and overshoots by five cycles at most**, whatever the hook does.  The
loop ends within one turn for every two cycles; without a cycle to run for nothing happens at
all; and otherwise the hook is asked at most once for every two cycles, each instruction takes
two to six of them, and a run that returns was either stopped before its budget was used up or
has used it up with at most five cycles more. -/
theorem execute_duration (machine : Machine) (hook : Option Hook) (cycles : Int) :
    let run := machine.execute hook cycles
    let completed : Int := (machine.journal hook cycles).length
    (machine.clocked cycles).unroll ((cycles + 1) / 2).toNat hook [] = some run ∧
      (cycles ≤ 0 → run = ⟨.exhausted 0, machine, hook, []⟩) ∧
      (1 ≤ cycles → (run.calls.length : Int) ≤ (cycles + 1) / 2 ∧
        ∀ used, run.outcome.result = .ok used →
          2 * completed ≤ used ∧ used ≤ 6 * completed ∧
          (run.outcome = .stopped used ∧ used < cycles ∨
            run.outcome = .exhausted used ∧ cycles ≤ used ∧ used ≤ cycles + 5)) := by
  intro run completed
  refine ⟨?_, machine.execute_of_nonpos hook, ?_⟩
  · apply Clocked.unroll_eq
    show cycles ≤ _
    omega
  · intro pos
    have asked : 2 * (run.calls.length : Int) ≤ cycles + 1 :=
      machine.calls_length_le hook cycles pos
    have within : run.outcome.Within cycles := machine.within_of_run hook cycles pos
    refine ⟨by omega, fun used returns => ?_⟩
    obtain ⟨least, most⟩ := machine.journal_length_le hook cycles used returns
    refine ⟨least, most, ?_⟩
    rcases Outcome.result_eq_ok.mp returns with outcome | outcome
    · exact .inr ⟨outcome, by rwa [outcome] at within⟩
    · exact .inl ⟨outcome, by rwa [outcome] at within⟩

/-- Thirteen cycles for a call to itself, whose opcode the hook writes when it is first asked.  It
is asked seven times at most, and the three calls take eighteen cycles. -/
theorem execute_duration_poked :
    let machine := holding .paged [0x00, 0xFC, 0xFF]
    let hook : Hook := { pokes := [⟨0xFFFC, 0xFFFC, 0x20⟩] }
    let run := machine.execute (some hook) 13
    let completed : Int := (machine.journal (some hook) 13).length
    (1 : Int) ≤ 13 ∧ run.outcome.result = .ok 18 ∧
      (machine.clocked 13).unroll 7 (some hook) [] = some run ∧
      (run.calls.length : Int) ≤ 7 ∧ completed = 3 ∧ 2 * completed ≤ 18 ∧ 18 ≤ 6 * completed ∧
      (run.outcome = .stopped 18 ∧ (18 : Int) < 13 ∨
        run.outcome = .exhausted 18 ∧ (13 : Int) ≤ 18 ∧ (18 : Int) ≤ 13 + 5) := by
  intro machine hook run completed
  have outcome : run.outcome = .exhausted 18 := by decide +kernel
  have returns : run.outcome.result = .ok 18 := by rw [outcome]; rfl
  have three : completed = 3 := by decide +kernel
  obtain ⟨ends, -, positive⟩ := execute_duration machine (some hook) 13
  obtain ⟨asked, used⟩ := positive (by decide)
  obtain ⟨least, most, last⟩ := used 18 returns
  exact ⟨by decide, returns, ends, asked, three, least, most, last⟩

end Machine

end Machine6502
