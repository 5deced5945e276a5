import Machine6502.Proofs.Duration
import Mathlib.Algebra.Ring.Int.Defs

/-!
# Hooks that only watch

A hook that lists no addresses, opcodes, pokes or jumps can do one thing to a run: stop it, when
the instructions it has let pass have reached its limit.  This module says that such a hook
changes nothing else.  As long as the limit is not reached, the run is the one without a hook,
and the hook was asked about each of its attempts; when it is reached, the run is cut there, and
the rest of it is a run of its own on the cycles that are left.

* `Machine.attempts` — the instructions a run begins, with the one it faults on.
* `Machine.execute_below_limit` — a run whose hook does not reach its limit.
* `Machine.execute_at_limit` — a run whose hook does.
* `Machine.execute_resumed` — a run without a hook, cut after any number of instructions.
* `Machine.execute_watched` — what observing, and stopping and resuming, come to.

The hook is asked before the opcode is fetched, and reads it on its own.  That is why an address
outside the memory is an attempt that it does not see.
-/

namespace Machine6502

open Memory (Addressable)

/-- The cycles that the instruction takes, run on its own. -/
def Entry.cycles (entry : Entry) : Int :=
  match (entry.before.step none).outcome with
  | .exhausted used => used
  | .stopped _ | .faulted _ => 0

theorem Entry.cycles_mk {machine left : Machine} {spent : Int}
    (effect : machine.effect = .completed left spent) : cycles ⟨machine, left⟩ = spent := by
  rw [cycles, Machine.step_of_effect effect]

namespace Machine

/-- The instruction that a run faults on, if there is one and its opcode can be read. -/
def failure? (machine : Machine) (cycles : Int) : Option HookCall :=
  match (machine.execute none cycles).outcome with
  | .faulted _ =>
      let last := machine.reached (machine.journal none cycles)
      if Addressable last.registers.pc then some last.site else none
  | .exhausted _ | .stopped _ => none

/-- The instructions that a run without a hook attempts, in order: those it completes and the one
it faults on. -/
def attempts (machine : Machine) (cycles : Int) : List HookCall :=
  (machine.journal none cycles).map Entry.site ++ (machine.failure? cycles).toList

variable {machine left : Machine} {cycles spent limit : Int} {passed : Nat} {fault : Fault}

/-! ## Attempts -/

theorem attempts_of_nonpos (machine : Machine) (le : cycles ≤ 0) :
    machine.attempts cycles = [] := by
  rw [attempts, failure?, machine.journal_of_nonpos none le, machine.execute_of_nonpos none le]
  rfl

theorem attempts_of_fault (pos : 0 < cycles) (effect : machine.effect = .faulted fault left spent) :
    machine.attempts cycles = if Addressable machine.registers.pc then [machine.site] else [] := by
  rw [attempts, failure?, journal_of_fault effect, execute_of_fault pos effect]
  dsimp only [reached_nil]
  split <;> rfl

theorem attempts_of_effect (pos : 0 < cycles) (effect : machine.effect = .completed left spent) :
    machine.attempts cycles = machine.site :: left.attempts (cycles - spent) := by
  have later : machine.failure? cycles = left.failure? (cycles - spent) := by
    rw [failure?, failure?, journal_of_effect pos effect, execute_of_effect pos effect,
      reached_cons]
    cases outcome : (left.execute none (cycles - spent)).outcome <;>
      simp only [Run.resumed, outcome, Outcome.after]
  rw [attempts, later, journal_of_effect pos effect, List.map_cons, List.cons_append]
  rfl

/-! ## One turn with a watching hook -/

/-- Where there is no opcode to show, no hook is asked. -/
theorem pass_of_outside (outside : ¬ Addressable machine.registers.pc) (hook : Hook) :
    machine.pass (some hook) =
      .faulted (.addressOutOfRange machine.registers.pc) machine 0 (some hook) none := by
  simp only [pass, Clocked.consult, machine.memory.read_of_not_addressable outside]

theorem pass_at_limit (inside : Addressable machine.registers.pc) (reached : limit ≤ passed) :
    machine.pass (some { limit := some limit, passed }) = .stopped machine.site := by
  have stops (call : HookCall) : Hook.stops { limit := some limit, passed } call = true := by
    simpa [Hook.stops] using reached
  simp only [pass, Clocked.consult, machine.read_of_addressable inside, stops, if_true]
  rfl

/-- Below its limit a hook that watches counts the instruction and leaves it as it is. -/
theorem pass_below_limit {limit : Option Int} (inside : Addressable machine.registers.pc)
    (below : ∀ most ∈ limit, (passed : Int) < most) :
    machine.pass (some { limit, passed }) =
      match machine.effect with
      | .completed left spent =>
          .completed machine left spent (some { limit, passed := passed + 1 }) (some machine.site)
      | .faulted fault left spent =>
          .faulted fault left spent (some { limit, passed := passed + 1 }) (some machine.site) := by
  have stops (call : HookCall) : Hook.stops { limit, passed } call = false := by
    cases limit with
    | none => rfl
    | some most => simpa [Hook.stops] using below
  simp only [pass, Clocked.consult, machine.read_of_addressable inside, stops, Hook.pokeAt,
    Hook.jumpAt, Hook.pass, List.filter_nil, List.foldl_nil, Hook.pokeAll]
  rfl

/-! ## Whole runs -/

/-- A run whose hook watches and does not reach its limit is the run without a hook, and the hook
was asked about each attempt. -/
theorem execute_below_limit (machine : Machine) (limit : Option Int) (passed : Nat) (cycles : Int)
    (enough : ∀ most ∈ limit, ((passed + (machine.attempts cycles).length : Nat) : Int) ≤ most) :
    machine.execute (some { limit, passed }) cycles =
        { machine.execute none cycles with
          hook := some { limit, passed := passed + (machine.attempts cycles).length }
          calls := machine.attempts cycles } ∧
      machine.journal (some { limit, passed }) cycles = machine.journal none cycles := by
  induction machine, cycles using bare_run_induction generalizing passed with
  | exhausted machine cycles le =>
    rw [attempts_of_nonpos machine le, execute_of_nonpos machine _ le,
      execute_of_nonpos machine _ le, journal_of_nonpos machine _ le,
      journal_of_nonpos machine _ le]
    exact ⟨rfl, rfl⟩
  | faulted machine cycles fault left spent pos effect =>
    rw [attempts_of_fault pos effect] at enough ⊢
    rw [execute_of_fault pos effect, journal_of_fault effect]
    by_cases inside : Addressable machine.registers.pc
    · rw [if_pos inside] at enough ⊢
      have below : ∀ most ∈ limit, (passed : Int) < most := by
        intro most listed
        have := enough most listed
        simp only [List.length_singleton] at this
        omega
      have passes := pass_below_limit inside below
      rw [effect] at passes
      rw [execute_of_faulted pos passes, journal_of_faulted passes]
      exact ⟨rfl, rfl⟩
    · have passes := pass_of_outside inside { limit, passed }
      rw [effect_of_outside inside] at effect
      cases effect
      rw [if_neg inside, execute_of_faulted pos passes, journal_of_faulted passes]
      exact ⟨rfl, rfl⟩
  | completed machine cycles left spent pos effect ih =>
    obtain ⟨inside, -⟩ := effect_eq_completed effect
    rw [attempts_of_effect pos effect, List.length_cons] at enough ⊢
    have below : ∀ most ∈ limit, (passed : Int) < most := by
      intro most listed
      have := enough most listed
      omega
    have passes := pass_below_limit inside below
    rw [effect] at passes
    have count : passed + 1 + (left.attempts (cycles - spent)).length =
        passed + ((left.attempts (cycles - spent)).length + 1) := by omega
    obtain ⟨run, journal⟩ := ih (passed + 1) (by rwa [count])
    rw [execute_of_completed pos passes, journal_of_completed pos passes, run, journal, count,
      execute_of_effect pos effect, journal_of_effect pos effect]
    exact ⟨rfl, rfl⟩

/-- A run whose hook watches and reaches its limit is cut there: the instructions before are those
of the run without a hook, and the hook was asked once more, about the next attempt. -/
theorem execute_at_limit (machine : Machine) (limit : Int) (passed count : Nat) (cycles : Int)
    (reaches : limit = (passed + count : Nat)) (short : count < (machine.attempts cycles).length) :
    let hook (passed : Nat) : Hook := { limit := some limit, passed }
    let completed := (machine.journal none cycles).take count
    machine.execute (some (hook passed)) cycles =
        ⟨.stopped (completed.map Entry.cycles).sum, machine.reached completed,
          some (hook (passed + count)), (machine.attempts cycles).take (count + 1)⟩ ∧
      machine.journal (some (hook passed)) cycles = completed ∧ completed.length = count ∧
      (machine.attempts cycles)[count]? = some (machine.reached completed).site := by
  intro hook
  induction machine, cycles using bare_run_induction generalizing passed count with
  | exhausted machine cycles le =>
    rw [attempts_of_nonpos machine le] at short
    cases short
  | faulted machine cycles fault left spent pos effect =>
    rw [attempts_of_fault pos effect] at short ⊢
    by_cases inside : Addressable machine.registers.pc
    · rw [if_pos inside] at short ⊢
      obtain rfl : count = 0 := by simpa using short
      have passes := pass_at_limit inside (show limit ≤ passed by omega)
      rw [execute_of_stopped pos passes, journal_of_stopped passes]
      exact ⟨rfl, rfl, rfl, rfl⟩
    · rw [if_neg inside] at short
      cases short
  | completed machine cycles left spent pos effect ih =>
    obtain ⟨inside, -⟩ := effect_eq_completed effect
    rw [attempts_of_effect pos effect] at short ⊢
    cases count with
    | zero =>
      have passes := pass_at_limit inside (show limit ≤ passed by omega)
      rw [execute_of_stopped pos passes, journal_of_stopped passes]
      exact ⟨rfl, rfl, rfl, rfl⟩
    | succ count =>
      have below : ∀ most ∈ some limit, (passed : Int) < most := by
        rintro most ⟨⟩
        omega
      have passes := pass_below_limit inside below
      rw [effect] at passes
      have same : passed + (count + 1) = passed + 1 + count := by omega
      obtain ⟨run, journal, length, site⟩ := ih (passed + 1) count (by rw [reaches, same])
        (by simpa using short)
      rw [execute_of_completed pos passes, journal_of_completed pos passes, run, journal,
        journal_of_effect pos effect, same]
      refine ⟨?_, rfl, ?_, site⟩
      · simp only [List.take_succ_cons, List.map_cons, List.sum_cons, reached_cons,
          Entry.cycles_mk effect]
        rfl
      · rw [List.take_succ_cons, List.length_cons, length]

/-- A run without a hook, cut after some of its instructions, goes on from there on the cycles that
are left. -/
theorem execute_resumed (machine : Machine) (cycles : Int) (count : Nat) :
    let completed := (machine.journal none cycles).take count
    let used := (completed.map Entry.cycles).sum
    machine.execute none cycles =
      ((machine.reached completed).execute none (cycles - used)).resumed used [] := by
  induction machine, cycles using bare_run_induction generalizing count with
  | exhausted machine cycles le => simp [journal_of_nonpos machine none le]
  | faulted machine cycles fault left spent pos effect => simp [journal_of_fault effect]
  | completed machine cycles left spent pos effect ih =>
    cases count with
    | zero => simp
    | succ count =>
      have later := ih count
      dsimp only at later ⊢
      rw [journal_of_effect pos effect, List.take_succ_cons, List.map_cons, List.sum_cons,
        Entry.cycles_mk effect, reached_cons, execute_of_effect pos effect, later,
        Run.resumed_resumed, Int.sub_sub]
      rfl

/-- **A hook that only watches changes nothing, and a run that it stops can be resumed.**  A hook
without a limit is asked about the attempts of the run, in order, and the run is the one without a
hook.  A hook that lets `count` instructions pass stops a run with more attempts than these before
the next one, with some of the cycles to spare; a run without a hook on these cycles is then the
rest of the whole run. -/
theorem execute_watched (machine : Machine) (cycles : Int) (passed : Nat) :
    let whole := machine.execute none cycles
    let journal := machine.journal none cycles
    let attempts := machine.attempts cycles
    let observer : Hook := { passed }
    let observed := machine.execute (some observer) cycles
    (observed.outcome = whole.outcome ∧ observed.machine = whole.machine ∧
      observed.calls = attempts ∧ machine.journal (some observer) cycles = journal) ∧
    ∀ count : Nat,
      let hook : Hook := { limit := some (passed + count : Nat), passed }
      let cut := machine.execute (some hook) cycles
      (attempts.length ≤ count →
        cut.outcome = whole.outcome ∧ cut.machine = whole.machine ∧ cut.calls = attempts) ∧
      (count < attempts.length →
        let completed := journal.take count
        let used := (completed.map Entry.cycles).sum
        let rest := cut.machine.execute none (cycles - used)
        cut.outcome = .stopped used ∧ used < cycles ∧
          cut.calls = attempts.take (count + 1) ∧
          machine.journal (some hook) cycles = completed ∧ completed.length = count ∧
          cut.machine = machine.reached completed ∧
          attempts[count]? = some cut.machine.site ∧
          whole.outcome = rest.outcome.after used ∧ whole.machine = rest.machine) := by
  intro whole journal attempts observer observed
  constructor
  · obtain ⟨run, same⟩ := execute_below_limit machine none passed cycles (by rintro most ⟨⟩)
    have run : observed = _ := run
    rw [run]
    exact ⟨rfl, rfl, rfl, same⟩
  intro count hook cut
  constructor
  · intro few
    have enough : ∀ most ∈ hook.limit, ((passed + attempts.length : Nat) : Int) ≤ most := by
      rintro most ⟨⟩
      omega
    have run : cut = _ := (execute_below_limit machine hook.limit passed cycles enough).1
    rw [run]
    exact ⟨rfl, rfl, rfl⟩
  · intro many completed used rest
    obtain ⟨run, same, length, site⟩ := execute_at_limit machine _ passed count cycles rfl many
    have outcome : cut.outcome = .stopped used := congrArg Run.outcome run
    have stoppedAt : cut.machine = machine.reached completed := congrArg Run.machine run
    have calls : cut.calls = attempts.take (count + 1) := congrArg Run.calls run
    -- A run that was stopped had a cycle to begin with, and had not used all of them.
    have pos : 0 < cycles := by
      by_contra nonpos
      have none : attempts = [] := machine.attempts_of_nonpos (Int.not_lt.mp nonpos)
      simp [none] at many
    have within : cut.outcome.Within cycles := machine.within_of_run (some hook) cycles pos
    rw [outcome] at within
    have resumed : whole = rest.resumed used [] := by
      show whole = (cut.machine.execute none (cycles - used)).resumed used []
      rw [stoppedAt]
      exact machine.execute_resumed cycles count
    refine ⟨outcome, within, calls, same, length, stoppedAt, ?_, ?_, ?_⟩
    · rw [stoppedAt]; exact site
    · rw [resumed]; rfl
    · rw [resumed]; rfl

/-- A load, a call across the end of the memory, and an opcode without a row.  A hook that lets two
instructions pass stops the run before the third, which faults when the run is resumed; a hook that
lets three pass sees the fault. -/
theorem execute_watched_fault :
    let machine := holding .flat [0xA9, 0x01, 0x20, 0x40]
    let cut := machine.execute (some { limit := some 2 }) 20
    let seen := machine.execute (some { limit := some 3 }) 20
    let fault : Fault := .unhandledOpcode 0x00 (some 0x0040)
    let attempts : List HookCall := [⟨0xFFFC, 0xA9⟩, ⟨0xFFFE, 0x20⟩, ⟨0x0040, 0x00⟩]
    2 < (machine.attempts 20).length ∧ (machine.attempts 20).length ≤ 3 ∧
      cut.outcome = .stopped 8 ∧ (8 : Int) < 20 ∧ cut.calls = attempts ∧
      cut.machine.site = ⟨0x0040, 0x00⟩ ∧
      (cut.machine.execute none 12).outcome = .faulted fault ∧
      seen.outcome = .faulted fault ∧ seen.calls = attempts := by
  intro machine cut seen fault attempts
  have attempted : machine.attempts 20 = attempts := by decide +kernel
  have three : (machine.attempts 20).length = 3 := by rw [attempted]; rfl
  have used : (((machine.journal none 20).take 2).map Entry.cycles).sum = 8 := by decide +kernel
  have faults : (cut.machine.execute none 12).outcome = .faulted fault := by decide +kernel
  obtain ⟨-, counted⟩ := execute_watched machine 20 0
  obtain ⟨-, stops⟩ := counted 2
  obtain ⟨outcome, spare, calls, -, -, -, site, whole, -⟩ := stops (by omega)
  obtain ⟨same, -, asked⟩ := (counted 3).1 (by omega)
  rw [used] at outcome spare whole
  rw [attempted] at calls site asked
  refine ⟨by omega, by omega, outcome, spare, calls, ?_, faults, ?_, asked⟩
  · exact (Option.some.inj site).symm
  · exact same.trans (whole.trans (congrArg (Outcome.after 8) faults))

end Machine

end Machine6502
