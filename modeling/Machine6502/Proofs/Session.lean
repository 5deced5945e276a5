import Machine6502.Bench
import Machine6502.Proofs.Checked

/-!
# Sessions on a bench

A session is a list of requests that a bench serves one after the other, whether they
succeed or fail.  This module says what a request does to the processors of the bench: the
ones it is not about keep everything, and the one it is about changes by one of four
updates.

* `Bench.serve` — the bench after a list of requests.
* `Request.Spares` — the request is not about a processor of that name.
* `Bench.find?_perform_of_spares` — a spared processor is kept.
-/

namespace Machine6502

namespace Bench

/-- The bench after a list of requests. -/
def serve (bench : Bench) : List Request → Bench
  | [] => bench
  | request :: rest => (bench.perform request).2.serve rest

@[simp] theorem serve_nil (bench : Bench) : bench.serve [] = bench := rfl

@[simp] theorem serve_cons (bench : Bench) (request : Request) (rest : List Request) :
    bench.serve (request :: rest) = (bench.perform request).2.serve rest := rfl

end Bench

/-- The request is about a processor of another name, or about none. -/
def Request.Spares (name : String) : Request → Prop
  | .newProcessor other _ _ | .processor other _ | .access other _ _ => other ≠ name
  | .newMemory _ | .newBudget _ _ | .memory _ _ | .writeWord _ _ _ _ | .charge _ _ | .inspect _ =>
      True

namespace Bench

variable {bench : Bench} {name other : String} {processor : Processor}

@[simp] theorem find?_setProcessor_self (bench : Bench) (name : String) (processor : Processor) :
    (bench.setProcessor name processor).processors.find? name = some processor :=
  bench.processors.find?_insert_self name processor

theorem find?_setProcessor_of_ne (bench : Bench) (processor : Processor) (ne : other ≠ name) :
    (bench.setProcessor name processor).processors.find? other = bench.processors.find? other :=
  bench.processors.find?_insert_of_ne processor ne

@[simp] theorem find?_setMachine_self (bench : Bench) (name : String) (processor : Processor)
    (machine : Machine) (hook : Option Hook) :
    (bench.setMachine name processor machine hook).processors.find? name =
      some { processor with registers := machine.registers, hook } :=
  find?_setProcessor_self ..

theorem find?_setMachine_of_ne (bench : Bench) (processor : Processor) (machine : Machine)
    (hook : Option Hook) (ne : other ≠ name) :
    (bench.setMachine name processor machine hook).processors.find? other =
      bench.processors.find? other :=
  find?_setProcessor_of_ne (bench.setMemory processor.place machine.memory) _ ne

theorem require_eq_ok {α : Type} {found : Option α} {object : α} :
    require name found = .ok object ↔ found = some object := by
  cases found <;> simp [require]

/-! ## What a request leaves alone -/

theorem perform_of_ok {request : Request} {answered : Reply × Bench}
    (answers : bench.perform? request = .ok answered) : bench.perform request = answered := by
  rw [perform, answers]

/-- A request that needs what the bench has not got changes nothing. -/
theorem perform_of_error {request : Request} {problem : Problem}
    (fails : bench.perform? request = .error problem) :
    bench.perform request = ({ result := .error problem }, bench) := by
  rw [perform, fails]

theorem perform?_processor (found : bench.processors.find? name = some processor)
    (request : ProcessorRequest) :
    bench.perform? (.processor name request) = bench.performProcessor name processor request := by
  rw [perform?, found]
  rfl

/-- A request to a processor leaves the other processors alone. -/
theorem find?_performProcessor_of_ne {request : ProcessorRequest} {answered : Reply × Bench}
    (answers : bench.performProcessor name processor request = .ok answered)
    (ne : other ≠ name) :
    answered.2.processors.find? other = bench.processors.find? other := by
  cases request with
  | reset memory =>
    cases memory with
    | none =>
      cases answers
      exact find?_setMachine_of_ne _ _ _ _ ne
    | some bound =>
      obtain ⟨place, -, answers⟩ := Checked.bind_eq_ok.mp answers
      cases answers
      exact find?_setMachine_of_ne _ _ _ _ ne
  | compare kept =>
    obtain ⟨registers, -, answers⟩ := Checked.bind_eq_ok.mp answers
    cases answers
    rfl
  | setRegister | setFlag | restore | flagAccumulator | setHook =>
    cases answers
    exact find?_setProcessor_of_ne _ _ ne
  | execute | step =>
    cases answers
    exact find?_setMachine_of_ne _ _ _ _ ne
  | boundMemory | getRegister | getFlag | registers | registerLine | snapshot =>
    cases answers
    rfl

/-- An access leaves the processors alone that do not make it. -/
theorem find?_performAccess_of_ne (bench : Bench) (processor : Processor) (budgetName : String)
    (budget : Budget) (request : AccessRequest) (ne : other ≠ name) :
    (bench.performAccess name processor budgetName budget request).2.processors.find? other =
      bench.processors.find? other := by
  rw [performAccess]
  split <;> exact find?_setMachine_of_ne _ _ _ _ ne

/-- **A request leaves the processors alone that it is not about.** -/
theorem find?_perform_of_spares (bench : Bench) {request : Request}
    (spares : request.Spares name) :
    (bench.perform request).2.processors.find? name = bench.processors.find? name := by
  cases answers : bench.perform? request with
  | error problem => rw [perform_of_error answers]
  | ok answered =>
    rw [perform_of_ok answers]
    cases request with
    | newMemory | newBudget =>
      cases answers
      rfl
    | newProcessor other memory stackMode =>
      obtain ⟨mode, -, answers⟩ := Checked.bind_eq_ok.mp answers
      obtain ⟨place, -, answers⟩ := Checked.bind_eq_ok.mp answers
      cases answers
      exact find?_setProcessor_of_ne _ _ spares.symm
    | memory | charge | inspect =>
      obtain ⟨needed, -, answers⟩ := Checked.bind_eq_ok.mp answers
      cases answers
      rfl
    | writeWord memory budgetName address value =>
      obtain ⟨place, -, answers⟩ := Checked.bind_eq_ok.mp answers
      obtain ⟨budget, -, answers⟩ := Checked.bind_eq_ok.mp answers
      cases written : (bench.memoryAt place).writeWord address value budget with
      | error fault => rw [written] at answers; cases answers
      | ok changed => rw [written] at answers; cases answers; rfl
    | processor other request =>
      obtain ⟨processor, -, answers⟩ := Checked.bind_eq_ok.mp answers
      exact find?_performProcessor_of_ne answers spares.symm
    | access other budgetName request =>
      obtain ⟨processor, -, answers⟩ := Checked.bind_eq_ok.mp answers
      obtain ⟨budget, -, answers⟩ := Checked.bind_eq_ok.mp answers
      cases answers
      exact find?_performAccess_of_ne bench processor budgetName budget request spares.symm

end Bench

end Machine6502
