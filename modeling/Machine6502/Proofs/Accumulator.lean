import Machine6502.Proofs.Lockstep

/-!
# Runs do not look at the accumulator

No instruction reads the accumulator or a flag.  They are written by loads, and nothing comes of
what is written: where a run goes, what it costs, what it pushes and how it ends are decided by
the other registers and the memory.  This module proves that for runs of any length, and says
what a run leaves in the accumulator and the flags: the byte of its last load, or what was there
before if it completes no load.

* `Machine.loads` — the bytes that the completed loads of a run put into the accumulator.
* `Registers.afterLoads` — the registers after some loads, of which the last one counts.
* `Machine.registers_of_run` — a run changes the registers by its loads, and moves the program
  counter and the stack pointer.
* `Machine.UpToAccumulator` — two machines that differ in the accumulator and the flags at most.
* `Machine.execute_blind` — such machines run alike.
-/

namespace Machine6502

open Memory (Addressable)

/-! ## What a run loads -/

/-- The byte that an instruction puts into the accumulator, if it is a load. -/
def Entry.loaded? (entry : Entry) : Option UInt8 :=
  match entry.before.row? with
  | some { operation := .lda, mode, .. } =>
      some (entry.before.byteAt (entry.before.target (entry.before.registers.pc + 1) mode))
  | _ => none

/-- The bytes that the completed loads of a run without a hook put into the accumulator, in
order. -/
def Machine.loads (machine : Machine) (cycles : Int) : List UInt8 :=
  (machine.journal none cycles).filterMap Entry.loaded?

/-- The registers after some bytes were loaded into the accumulator, one after the other. -/
def Registers.afterLoads (registers : Registers) (loads : List UInt8) : Registers :=
  match loads.getLast? with
  | some byte => (registers.setA byte.toNat).flagAccumulator
  | none => registers

namespace Registers

@[simp] theorem afterLoads_nil (registers : Registers) : registers.afterLoads [] = registers := rfl

/-- Of loads that come one after the other the last one counts. -/
theorem afterLoads_append (registers : Registers) (first later : List UInt8) :
    registers.afterLoads (first ++ later) = (registers.afterLoads first).afterLoads later := by
  rw [afterLoads, afterLoads, afterLoads, List.getLast?_append]
  cases later.getLast? <;> cases first.getLast? <;> rfl

/-- The program counter and the stack pointer have nothing to do with it. -/
theorem afterLoads_moved (registers : Registers) (loads : List UInt8) (pc sp : Int) :
    { registers with pc, sp }.afterLoads loads = { registers.afterLoads loads with pc, sp } := by
  rw [afterLoads, afterLoads]
  cases loads.getLast? <;> rfl

/-- After a load, whatever was in the accumulator and in the two flags it sets is gone. -/
theorem afterLoads_congr {registers registers' : Registers} {loads : List UInt8}
    (some_load : loads ≠ []) :
    (registers'.afterLoads loads).a = (registers.afterLoads loads).a ∧
      (registers'.afterLoads loads).status.zero = (registers.afterLoads loads).status.zero ∧
      (registers'.afterLoads loads).status.negative =
        (registers.afterLoads loads).status.negative := by
  rw [afterLoads, afterLoads, List.getLast?_eq_some_getLast some_load]
  exact ⟨rfl, rfl, rfl⟩

/-- Loads set two flags and keep the other bits of the status. -/
theorem status_afterLoads (registers : Registers) (loads : List UInt8) :
    (registers.afterLoads loads).status =
      { registers.status with
        zero := (registers.afterLoads loads).status.zero
        negative := (registers.afterLoads loads).status.negative } := by
  rw [afterLoads]
  cases loads.getLast? <;> rfl

end Registers

namespace Machine

variable {machine twin left left' : Machine} {cycles spent : Int} {row : Instruction}

theorem loaded?_of_load (found : machine.row? = some row) (load : row.operation = .lda) :
    Entry.loaded? ⟨machine, left⟩ =
      some (machine.byteAt (machine.target (machine.registers.pc + 1) row.mode)) := by
  obtain ⟨opcode, operation, mode, cycles, pagePenalty⟩ := row
  subst load
  simp only [Entry.loaded?, found]

theorem loaded?_of_call (found : machine.row? = some row) (jump : row.operation = .jsr) :
    Entry.loaded? ⟨machine, left⟩ = none := by
  obtain ⟨opcode, operation, mode, cycles, pagePenalty⟩ := row
  subst jump
  simp only [Entry.loaded?, found]

theorem loads_of_effect (pos : 0 < cycles) (effect : machine.effect = .completed left spent) :
    machine.loads cycles =
      (Entry.loaded? ⟨machine, left⟩).toList ++ left.loads (cycles - spent) := by
  rw [loads, journal_of_effect pos effect, List.filterMap_cons]
  cases Entry.loaded? ⟨machine, left⟩ <;> rfl

/-- An instruction changes the registers by its load, if it is one, and moves the program counter
and the stack pointer. -/
theorem registers_of_effect (effect : machine.effect = .completed left spent) :
    left.registers =
      { machine.registers.afterLoads (Entry.loaded? ⟨machine, left⟩).toList with
        pc := left.registers.pc, sp := left.registers.sp } := by
  obtain ⟨-, row, found, -, ⟨load, rfl⟩ | ⟨jump, -, rfl⟩⟩ := effect_eq_completed effect
  · rw [loaded?_of_load found load]
    rfl
  · rw [loaded?_of_call found jump]
    rfl

/-- **What a run does to the registers.**  The last load decides the accumulator and two flags;
apart from that the program counter and the stack pointer move. -/
theorem registers_of_run (machine : Machine) (cycles : Int) :
    let final := (machine.execute none cycles).machine.registers
    final =
      { machine.registers.afterLoads (machine.loads cycles) with
        pc := final.pc, sp := final.sp } := by
  induction machine, cycles using bare_run_induction with
  | exhausted machine cycles le =>
    rw [execute_of_nonpos machine none le, loads, journal_of_nonpos machine none le]
    rfl
  | faulted machine cycles fault left spent pos effect =>
    rw [execute_of_fault pos effect, loads, journal_of_fault effect]
    obtain ⟨-, -, rfl⟩ | ⟨-, -, -, rfl⟩ | ⟨-, -, -, -, rfl⟩ := effect_eq_faulted effect <;> rfl
  | completed machine cycles left spent pos effect ih =>
    rw [execute_of_effect pos effect, loads_of_effect pos effect]
    rw [registers_of_effect effect, Registers.afterLoads_moved,
      ← Registers.afterLoads_append] at ih
    exact ih

theorem accumulator_of_run (machine : Machine) (cycles : Int) :
    let final := (machine.execute none cycles).machine.registers
    let loaded := machine.registers.afterLoads (machine.loads cycles)
    final.a = loaded.a ∧ final.status = loaded.status := by
  intro final loaded
  have run : final = { loaded with pc := final.pc, sp := final.sp } :=
    machine.registers_of_run cycles
  rw [run]
  exact ⟨rfl, rfl⟩

/-! ## Two machines -/

/-- The machines differ in the accumulator and the flags at most. -/
structure UpToAccumulator (machine twin : Machine) : Prop extends machine.Aligned twin where
  stackMode : twin.stackMode = machine.stackMode
  sp : twin.registers.sp = machine.registers.sp

namespace UpToAccumulator

theorem stackCell (alike : machine.UpToAccumulator twin) (offset : Int) :
    twin.stackCell offset = machine.stackCell offset := by
  rw [Machine.stackCell, Machine.stackCell, alike.stackMode, alike.sp]

theorem hasRoom_iff (alike : machine.UpToAccumulator twin) : twin.HasRoom ↔ machine.HasRoom := by
  rw [HasRoom, HasRoom, alike.stackMode, alike.sp]

theorem overrun (alike : machine.UpToAccumulator twin) : twin.overrun = machine.overrun := by
  rw [Machine.overrun, Machine.overrun, alike.sp]

theorem loaded? (alike : machine.UpToAccumulator twin) :
    Entry.loaded? ⟨twin, left'⟩ = Entry.loaded? ⟨machine, left⟩ := by
  simp only [Entry.loaded?, alike.row?, alike.byteAt, alike.target, alike.pc]

theorem skip (alike : machine.UpToAccumulator twin) (bytes : Int) :
    (machine.skip bytes).UpToAccumulator (twin.skip bytes) where
  memory := alike.memory
  pc := by rw [skip_pc, skip_pc, alike.pc]
  x := alike.x
  y := alike.y
  stackMode := alike.stackMode
  sp := alike.sp

theorem loaded (alike : machine.UpToAccumulator twin) (mode : AddressingMode) :
    (machine.loaded mode).UpToAccumulator (twin.loaded mode) where
  memory := alike.memory
  pc := by rw [loaded_pc, loaded_pc, alike.pc]
  x := alike.x
  y := alike.y
  stackMode := alike.stackMode
  sp := alike.sp

theorem called (alike : machine.UpToAccumulator twin) :
    machine.called.UpToAccumulator twin.called where
  memory := by
    rw [called_memory, called_memory, alike.memory, alike.stackCell, alike.stackCell, alike.pc]
  pc := by rw [called_pc, called_pc, alike.wordAt, alike.pc]
  x := alike.x
  y := alike.y
  stackMode := alike.stackMode
  sp := by rw [called_sp, called_sp, alike.stackCell]

theorem machine_eq (alike : machine.UpToAccumulator twin) :
    twin = { machine with registers :=
      { machine.registers with a := twin.registers.a, status := twin.registers.status } } := by
  obtain ⟨⟨memory, pc, x, y⟩, stackMode, sp⟩ := alike
  simp only [← memory, ← pc, ← x, ← y, ← stackMode, ← sp]

end UpToAccumulator

/-- **Machines that differ in the accumulator and the flags run in step**, and load the same
bytes. -/
theorem lockstep_upToAccumulator :
    Lockstep (fun entry => (entry.site, entry.loaded?))
      (fun _ machine twin => machine.UpToAccumulator twin) UpToAccumulator where
  exhausted := fun _ alike => alike
  completed := by
    intro cycles machine twin left spent pos alike effect
    have inside := (effect_eq_completed effect).1
    have inside' := alike.addressable inside
    have seen (left' : Machine) : (Entry.site ⟨twin, left'⟩, Entry.loaded? ⟨twin, left'⟩) =
        (Entry.site ⟨machine, left⟩, Entry.loaded? ⟨machine, left⟩) :=
      Prod.ext alike.site alike.loaded?
    obtain ⟨-, row, found, rfl, ⟨load, rfl⟩ | ⟨jump, room, rfl⟩⟩ := effect_eq_completed effect
    · have effect' := effect_of_load inside' (alike.row?.trans found) load
      rw [alike.cost] at effect'
      exact ⟨_, effect', seen _, alike.loaded row.mode⟩
    · have effect' := effect_of_call inside' (alike.row?.trans found) jump
        (alike.hasRoom_iff.mpr room)
      rw [alike.cost] at effect'
      exact ⟨_, effect', seen _, alike.called⟩
  faulted := by
    intro cycles machine twin fault left spent pos alike effect
    obtain ⟨outside, -, -⟩ | ⟨inside, unlisted, -, -⟩ | ⟨inside, full, ⟨row, found, jump⟩, -, -⟩ :=
      effect_eq_faulted effect
    · have outside' : ¬ Addressable twin.registers.pc := by rwa [alike.pc]
      have effect' := effect_of_outside outside'
      rw [alike.pc] at effect'
      rw [effect_of_outside outside] at effect
      cases effect
      exact ⟨twin, effect', alike⟩
    · have effect' := effect_of_unlisted (alike.addressable inside) (alike.row?.trans unlisted)
      rw [alike.opcode, alike.pc] at effect'
      rw [effect_of_unlisted inside unlisted] at effect
      cases effect
      exact ⟨_, effect', alike.skip 1⟩
    · have effect' := effect_of_full (alike.addressable inside) (alike.row?.trans found) jump
        (mt alike.hasRoom_iff.mp full)
      rw [alike.overrun] at effect'
      rw [effect_of_full inside found jump full] at effect
      cases effect
      exact ⟨_, effect', alike.skip 3⟩

/-- **The accumulator and the flags never influence a run.**  Give a machine another accumulator
and another status.  The run executes the same instructions at the same addresses, loads the same
bytes, ends in the same way and leaves the same memory and the same other registers.  Once a load
is completed, the accumulator and the two flags that it sets are the same too; before that each
run has those it was given, and the other bits of the status stay as they were given to the end. -/
theorem execute_blind (machine : Machine) (a : Int) (status : Status) (cycles : Int) :
    let twin := { machine with registers := { machine.registers with a, status } }
    let run := machine.execute none cycles
    let other := twin.execute none cycles
    let registers := run.machine.registers
    let registers' := other.machine.registers
    let loads := machine.loads cycles
    ((twin.journal none cycles).map Entry.site = (machine.journal none cycles).map Entry.site ∧
      twin.loads cycles = loads ∧ other.outcome = run.outcome ∧
      other.machine = { run.machine with
        registers := { registers with a := registers'.a, status := registers'.status } }) ∧
    (loads ≠ [] → registers'.a = registers.a ∧
      registers'.status.zero = registers.status.zero ∧
      registers'.status.negative = registers.status.negative) ∧
    (loads = [] → registers.a = machine.registers.a ∧ registers'.a = a ∧
      registers.status = machine.registers.status ∧ registers'.status = status) ∧
    registers.status = { machine.registers.status with
      zero := registers.status.zero, negative := registers.status.negative } ∧
    registers'.status = { status with
      zero := registers'.status.zero, negative := registers'.status.negative } := by
  intro twin run other registers registers' loads
  have alike : machine.UpToAccumulator twin := ⟨⟨rfl, rfl, rfl, rfl⟩, rfl, rfl⟩
  obtain ⟨seen, outcome, final⟩ := lockstep_upToAccumulator.run machine cycles twin alike
  have sites := congrArg (List.map Prod.fst) seen
  have loaded := congrArg (List.filterMap Prod.snd) seen
  rw [List.map_map, List.map_map] at sites
  rw [List.filterMap_map, List.filterMap_map] at loaded
  have loaded : twin.loads cycles = machine.loads cycles := loaded
  -- What each run leaves in the accumulator and the flags, from the same loads.
  obtain ⟨a_eq, status_eq⟩ := machine.accumulator_of_run cycles
  obtain ⟨a_eq', status_eq'⟩ := twin.accumulator_of_run cycles
  rw [loaded] at a_eq' status_eq'
  refine ⟨⟨sites, loaded, outcome, final.machine_eq⟩, ?_, ?_, ?_, ?_⟩
  · intro nonempty
    rw [a_eq, a_eq', status_eq, status_eq']
    exact Registers.afterLoads_congr nonempty
  · intro empty
    have empty : machine.loads cycles = [] := empty
    rw [a_eq, a_eq', status_eq, status_eq', empty]
    exact ⟨rfl, rfl, rfl, rfl⟩
  · rw [status_eq]
    exact machine.registers.status_afterLoads loads
  · rw [status_eq']
    exact twin.registers.status_afterLoads loads

/-- A load of `$80`, on a machine that has seven in its accumulator and says it is zero. -/
theorem execute_blind_load :
    let machine := holding .flat [0xA9, 0x80]
    let status : Status := { carry := true, zero := true }
    let twin := { machine with registers := { machine.registers with a := 7, status } }
    let other := twin.execute none 2
    machine.loads 2 = [0x80] ∧ other.outcome = .exhausted 2 ∧
      other.machine.registers.a = 0x80 ∧
      other.machine.registers.status = { carry := true, negative := true } := by
  intro machine status twin other
  have loads : machine.loads 2 = [0x80] := by decide +kernel
  have ends : (machine.execute none 2).outcome = .exhausted 2 := by decide +kernel
  have registers : (machine.execute none 2).machine.registers =
      { pc := 0xFFFE, a := 0x80, status := { negative := true } } := by decide +kernel
  obtain ⟨⟨-, -, outcome, -⟩, loaded, -, -, kept⟩ := machine.execute_blind 7 status 2
  obtain ⟨a, zero, negative⟩ := loaded (by rw [loads]; exact List.cons_ne_nil _ _)
  rw [registers] at a zero negative
  refine ⟨loads, outcome.trans ends, a, kept.trans ?_⟩
  rw [zero, negative]

end Machine

end Machine6502
