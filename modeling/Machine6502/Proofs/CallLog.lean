import Machine6502.Proofs.Cells
import Machine6502.Proofs.Faults

/-!
# The calls of a run as the log of its writes

A load writes no cell and a call writes two.  So the memory of a run is its initial memory with
its calls written into it, one after the other, and the list of the addresses they were at is
all that has to be known of the run.  This holds at every point of a run and when it has ended,
also by a fault, and whatever code the calls have written over.

* `callSites` — the addresses of the calls among some instructions.
* `StackMode.cell` — the cells of a push.
* `StackMode.replay` — the calls at some addresses, written into a memory.
* `Machine.memory_reached` — the memory that some instructions lead to.
* `Machine.execute_memory` — the law for whole runs, with what follows from it: a paged stack
  leaves its page alone, and as long as the stack has not come round, every return address can
  be read back.
-/

namespace Machine6502

/-- The addresses of the calls among some instructions, in order. -/
def callSites (entries : List Entry) : List Int :=
  (entries.filter Entry.isCall).map fun entry => entry.before.registers.pc

theorem callSites_cons_of_call {entry : Entry} (rest : List Entry) (call : entry.isCall = true) :
    callSites (entry :: rest) = entry.before.registers.pc :: callSites rest := by
  rw [callSites, List.filter_cons_of_pos call, List.map_cons, callSites]

theorem callSites_cons_of_load {entry : Entry} (rest : List Entry) (load : entry.isCall = false) :
    callSites (entry :: rest) = callSites rest := by
  rw [callSites, List.filter_cons_of_neg (Bool.eq_false_iff.mp load), callSites]

/-- What a call at an address pushes: the address of its last byte. -/
def returnWord (site : Int) : Int := (site + 2) % 65536

namespace StackMode

variable {stackMode : StackMode} {start start' : Int}

/-! ## Replaying calls -/

/-- The lower (`offset` zero) and the upper (`offset` one) cell of a push that begins at `start`.
A flat push wraps as a whole, a paged one byte by byte. -/
def cell (stackMode : StackMode) (start : Int) (offset : Nat) : Nat :=
  match stackMode with
  | .flat => (start % 65536).toNat + offset
  | .paged => 256 + ((start + offset) % 256).toNat

/-- The memory with the return address of a call at `site` pushed at `start`, low byte first. -/
def record (stackMode : StackMode) (start : Int) (memory : Memory) (site : Int) : Memory :=
  (memory.set (stackMode.cell start 0) (.ofInt (returnWord site))).set (stackMode.cell start 1)
    (.ofInt (returnWord site / 256))

/-- The memory with the return addresses of the calls at `sites` pushed one after the other, the
first of them at `start`. -/
def replay (stackMode : StackMode) : (start : Int) → Memory → (sites : List Int) → Memory
  | _, memory, [] => memory
  | start, memory, site :: rest =>
      stackMode.replay (start + 2) (stackMode.record start memory site) rest

/-- Stack pointers that differ by this many push into the same cells. -/
def period : StackMode → Int
  | .flat => 65536
  | .paged => 256

theorem cell_congr (same : start % stackMode.period = start' % stackMode.period) :
    stackMode.cell start = stackMode.cell start' := by
  funext offset
  cases stackMode <;> simp only [cell, period] at same ⊢ <;> omega

theorem replay_congr (same : start % stackMode.period = start' % stackMode.period)
    (memory : Memory) (sites : List Int) :
    stackMode.replay start memory sites = stackMode.replay start' memory sites := by
  induction sites generalizing start start' memory with
  | nil => rfl
  | cons site rest ih =>
    have next : (start + 2) % stackMode.period = (start' + 2) % stackMode.period := by
      cases stackMode <;> simp only [period] at same ⊢ <;> omega
    rw [replay, replay, record, record, cell_congr same, ih next]

/-! ## Reading a replayed memory -/

/-- The stack has room for some pushes from `start` on without coming round: a flat one ends
with the memory, a paged one holds 128 words. -/
def Holds (stackMode : StackMode) (start : Int) (calls : Nat) : Prop :=
  match stackMode with
  | .flat => 0 ≤ start ∧ start + 2 * calls ≤ 65536
  | .paged => calls ≤ 128

theorem cell_lt_size {calls index offset : Nat} (holds : stackMode.Holds start calls)
    (within : index < calls) (byte : offset < 2) :
    stackMode.cell (start + 2 * index) offset < Memory.size := by
  cases stackMode <;> simp only [cell, Holds, Memory.size] at holds ⊢ <;> omega

/-- Pushes that do not come round do not overlap. -/
theorem cell_ne {calls index later offset offset' : Nat} (holds : stackMode.Holds start calls)
    (before : index < later) (within : later < calls) (byte : offset < 2) (byte' : offset' < 2) :
    stackMode.cell (start + 2 * index) offset ≠ stackMode.cell (start + 2 * later) offset' := by
  cases stackMode <;> simp only [cell, Holds] at holds ⊢ <;> omega

/-- The two cells of one push differ. -/
theorem cell_zero_ne_one (stackMode : StackMode) (start : Int) :
    stackMode.cell start 0 ≠ stackMode.cell start 1 := by
  cases stackMode <;> simp only [cell] <;> omega

/-- The push after some pushes is the one at the head of the later ones. -/
theorem start_add_succ (start : Int) (index : Nat) :
    start + 2 * ((index + 1 : Nat) : Int) = start + 2 + 2 * index := by
  omega

theorem Holds.tail {calls : Nat} (holds : stackMode.Holds start (calls + 1)) :
    stackMode.Holds (start + 2) calls := by
  cases stackMode <;> simp only [Holds] at holds ⊢ <;> omega

/-- A cell that no push writes keeps its byte. -/
theorem get_replay_of_ne {other : Nat} (small : other < Memory.size) (memory : Memory)
    (sites : List Int)
    (apart : ∀ index < sites.length, ∀ offset < 2,
      stackMode.cell (start + 2 * index) offset < Memory.size ∧
        other ≠ stackMode.cell (start + 2 * index) offset) :
    (stackMode.replay start memory sites).get other = memory.get other := by
  induction sites generalizing start memory with
  | nil => rfl
  | cons site rest ih =>
    have first : ∀ offset < 2, stackMode.cell start offset < Memory.size ∧
        other ≠ stackMode.cell start offset := by
      simpa using apart 0 (Nat.succ_pos _)
    obtain ⟨low, neLow⟩ := first 0 (by decide)
    obtain ⟨high, neHigh⟩ := first 1 (by decide)
    rw [replay, ih, record, Memory.get_set_of_ne _ _ high small neHigh,
      Memory.get_set_of_ne _ _ low small neLow]
    intro index within
    rw [← start_add_succ]
    exact apart (index + 1) (Nat.succ_lt_succ within)

/-- A word that was just pushed reads back. -/
theorem word_record (memory : Memory) (site : Int)
    (small : ∀ offset < 2, stackMode.cell start offset < Memory.size) :
    Word.ofBytes ((stackMode.record start memory site).get (stackMode.cell start 0))
        ((stackMode.record start memory site).get (stackMode.cell start 1)) = returnWord site := by
  rw [record, Memory.get_set_of_ne _ _ (small 1 (by decide)) (small 0 (by decide))
    (stackMode.cell_zero_ne_one start), Memory.get_set_self, Memory.get_set_self]
  simp only [Word.ofBytes, UInt8.ofInt, UInt8.toNat_ofNat', returnWord]
  omega

/-- **Return addresses read back in order**, as long as the stack does not come round. -/
theorem word_replay (memory : Memory) (sites : List Int)
    (holds : stackMode.Holds start sites.length) (index : Nat) (within : index < sites.length) :
    Word.ofBytes
        ((stackMode.replay start memory sites).get (stackMode.cell (start + 2 * index) 0))
        ((stackMode.replay start memory sites).get (stackMode.cell (start + 2 * index) 1)) =
      returnWord sites[index] := by
  induction sites generalizing start memory index with
  | nil => exact absurd within (Nat.not_lt_zero index)
  | cons site rest ih =>
    cases index with
    | zero =>
      have small : ∀ offset < 2, stackMode.cell start offset < Memory.size := by
        intro offset byte
        simpa using cell_lt_size holds (Nat.succ_pos _) byte
      -- The later pushes lie elsewhere, so the first one is still there.
      have kept : ∀ offset < 2,
          (stackMode.replay start memory (site :: rest)).get (stackMode.cell start offset) =
            (stackMode.record start memory site).get (stackMode.cell start offset) := by
        intro offset byte
        refine get_replay_of_ne (small offset byte) _ rest fun index within offset' byte' => ?_
        rw [← start_add_succ]
        refine ⟨cell_lt_size holds (Nat.succ_lt_succ within) byte', ?_⟩
        simpa using cell_ne holds (Nat.succ_pos index) (Nat.succ_lt_succ within) byte byte'
      rw [Int.natCast_zero, Int.mul_zero, Int.add_zero, kept 0 (by decide), kept 1 (by decide),
        List.getElem_cons_zero]
      exact word_record memory site small
    | succ index =>
      rw [replay, start_add_succ, List.getElem_cons_succ]
      exact ih _ holds.tail index (Nat.lt_of_succ_lt_succ within)

/-- Paged pushes stay in their page. -/
theorem get_replay_paged {other : Nat} (small : other < Memory.size)
    (outside : other < 256 ∨ 512 ≤ other) (start : Int) (memory : Memory) (sites : List Int) :
    (StackMode.paged.replay start memory sites).get other = memory.get other := by
  refine get_replay_of_ne small memory sites fun index _ offset _ => ?_
  simp only [cell, Memory.size]
  omega

end StackMode

namespace Machine

variable {machine left : Machine} {cycles spent : Int}

/-! ## The memory of a run -/

theorem stackCell_toNat (room : machine.HasRoom) {offset : Nat} (byte : offset < 2) :
    (machine.stackCell offset).toNat = machine.stackMode.cell machine.registers.sp offset := by
  cases mode : machine.stackMode with
  | flat =>
    have := room mode
    simp only [stackCell, mode, StackMode.cell]
    omega
  | paged =>
    simp only [stackCell, mode, StackMode.cell, stackPage, Word.lowByte]
    omega

/-- What one instruction does to the memory and to the stack pointer: nothing, or what a call
at its address does. -/
theorem record_of_effect (effect : machine.effect = .completed left spent) :
    left.stackMode = machine.stackMode ∧
      (Entry.isCall ⟨machine, left⟩ = false ∧ left.memory = machine.memory ∧
          left.registers.sp = machine.registers.sp ∨
        Entry.isCall ⟨machine, left⟩ = true ∧
          left.memory = machine.stackMode.record machine.registers.sp machine.memory
            machine.registers.pc ∧
          left.registers.sp % machine.stackMode.period =
            (machine.registers.sp + 2) % machine.stackMode.period) := by
  obtain ⟨-, row, found, -, ⟨load, rfl⟩ | ⟨jump, room, rfl⟩⟩ := effect_eq_completed effect
  · have noCall : Entry.isCall ⟨machine, machine.loaded row.mode⟩ = false :=
      Entry.isCall_of_load found load
    exact ⟨rfl, .inl ⟨noCall, rfl, rfl⟩⟩
  · have call : Entry.isCall ⟨machine, machine.called⟩ = true := Entry.isCall_of_call found jump
    have low := stackCell_toNat room (show 0 < 2 by decide)
    have high := stackCell_toNat room (show 1 < 2 by decide)
    refine ⟨rfl, .inr ⟨call, ?_, ?_⟩⟩
    · rw [called_memory, StackMode.record, ← low, ← high]
      rfl
    · rw [called_sp, stackCell]
      cases machine.stackMode <;>
        simp only [StackMode.period, Word.wrap, Word.lowByte, stackPage] <;> omega

/-- The memory that some instructions lead to: their calls, written into the memory that they
began with. -/
theorem memory_reached (machine : Machine) (entries : List Entry)
    (linked : machine.Linked entries)
    (effects : ∀ entry ∈ entries, ∃ spent, entry.before.effect = .completed entry.after spent) :
    (machine.reached entries).memory =
      machine.stackMode.replay machine.registers.sp machine.memory (callSites entries) := by
  induction entries generalizing machine with
  | nil => rfl
  | cons entry rest ih =>
    obtain ⟨rfl, linked'⟩ := linked
    obtain ⟨spent, effect⟩ := effects entry List.mem_cons_self
    have later := ih entry.after linked' fun other member =>
      effects other (List.mem_cons_of_mem entry member)
    obtain ⟨mode, ⟨load, memory, sp⟩ | ⟨call, memory, sp⟩⟩ := record_of_effect effect
    · rw [reached_cons, later, callSites_cons_of_load rest load, mode, memory, sp]
    · rw [reached_cons, later, callSites_cons_of_call rest call, mode, memory,
        StackMode.replay_congr sp, StackMode.replay]

/-- At every point of a run its memory holds the calls so far. -/
theorem memory_reached_take (machine : Machine) (cycles : Int) (count : Nat) :
    (machine.reached ((machine.journal none cycles).take count)).memory =
      machine.stackMode.replay machine.registers.sp machine.memory
        (callSites ((machine.journal none cycles).take count)) :=
  memory_reached machine _ ((linked_journal machine cycles).take count) fun entry member =>
    effect_of_mem_journal machine none cycles entry (List.mem_of_mem_take member)

/-- The last instruction of a run, if it faults, writes nothing. -/
theorem memory_execute (machine : Machine) (cycles : Int) :
    (machine.execute none cycles).machine.memory =
      (machine.reached (machine.journal none cycles)).memory := by
  rcases bare_run_end machine cycles with ⟨-, -, same⟩ | ⟨fault, spent, -, effect⟩
  · rw [same]
  · rw [eq_of_fault effect]

/-- **A run changes memory only by its calls.**  The memory after a run, whether it faulted or
not, is the memory before it with the return addresses of its calls pushed in order, and so is
the memory at every point between two of its instructions.

So a paged stack leaves all cells outside its page as they were, all the time; and while the
stack has not come round, every return address can still be read. -/
theorem execute_memory (machine : Machine) (cycles : Int) :
    let journal := machine.journal none cycles
    let sites := callSites journal
    let mode := machine.stackMode
    let sp := machine.registers.sp
    let final := (machine.execute none cycles).machine.memory
    let between (count : Nat) := (machine.reached (journal.take count)).memory
    final = mode.replay sp machine.memory sites ∧
      (∀ count, between count =
        mode.replay sp machine.memory (callSites (journal.take count))) ∧
      (mode = .paged → ∀ cell < Memory.size, cell < 256 ∨ 512 ≤ cell →
        final.get cell = machine.memory.get cell ∧
          ∀ count, (between count).get cell = machine.memory.get cell) ∧
      (mode = .flat ∧ 0 ≤ sp ∧ sp + 2 * sites.length ≤ 65536 ∨
          mode = .paged ∧ sites.length ≤ 128 →
        ∀ (index : Nat) (within : index < sites.length),
          Word.ofBytes (final.get (mode.cell (sp + 2 * index) 0))
            (final.get (mode.cell (sp + 2 * index) 1)) = (sites[index] + 2) % 65536) := by
  intro journal sites mode sp final between
  have replayed : final = mode.replay sp machine.memory sites :=
    (memory_execute machine cycles).trans <|
      memory_reached machine journal (linked_journal machine cycles)
        (effect_of_mem_journal machine none cycles)
  have midway : ∀ count, between count =
      mode.replay sp machine.memory (callSites (journal.take count)) :=
    memory_reached_take machine cycles
  refine ⟨replayed, midway, ?_, ?_⟩
  · intro paged cell small outside
    rw [replayed, paged]
    refine ⟨StackMode.get_replay_paged small outside sp machine.memory sites, fun count => ?_⟩
    rw [midway, paged]
    exact StackMode.get_replay_paged small outside sp machine.memory _
  · intro room index within
    have holds : mode.Holds sp sites.length := by
      rcases room with ⟨flat, fits⟩ | ⟨paged, fits⟩
      · rw [flat]; exact fits
      · rw [paged]; exact fits
    rw [replayed]
    exact StackMode.word_replay machine.memory sites holds index within

/-- Two calls on a paged stack, the first of which pushes the last byte of the page and then the
first one. -/
theorem execute_memory_odd_pointer :
    let machine : Machine :=
      { holding .paged [0x20, 0xFC, 0xFF] with registers := { sp := 511 } }
    let sites := callSites (machine.journal none 12)
    let final := (machine.execute none 12).machine.memory
    machine.stackMode = .paged ∧ sites.length ≤ 128 ∧ sites = [0xFFFC, 0xFFFC] ∧
      Word.ofBytes (final.get 511) (final.get 256) = 0xFFFE ∧
      Word.ofBytes (final.get 257) (final.get 258) = 0xFFFE ∧
      final.get 512 = machine.memory.get 512 := by
  intro machine sites final
  have calls : sites = [0xFFFC, 0xFFFC] := by decide +kernel
  have two : sites.length = 2 := by rw [calls]; rfl
  have few : sites.length ≤ 128 := by omega
  have zero_lt : 0 < sites.length := by omega
  have one_lt : 1 < sites.length := by omega
  have first : sites[0] = 0xFFFC := by simp only [calls, List.getElem_cons_zero]
  have second : sites[1] = 0xFFFC := by
    simp only [calls, List.getElem_cons_succ, List.getElem_cons_zero]
  obtain ⟨-, -, page, reads⟩ := execute_memory machine 12
  have words := reads (.inr ⟨rfl, few⟩)
  refine ⟨rfl, few, calls, ?_, ?_, (page rfl 512 (by decide) (by decide)).1⟩
  · have word := words 0 zero_lt
    rw [first] at word
    exact word
  · have word := words 1 one_lt
    rw [second] at word
    exact word

end Machine

end Machine6502
