import Machine6502.Proofs.Session

/-!
# Sides of a bench

Several parties may work at one bench, each with memories, processors, budgets and snapshots of its
own.  `Machine6502.Proofs.Session` said which processors a request is about; this module says that
nothing else of the other parties has a part in it either.  However the requests of the sides are
interleaved, each request is answered as if its side were alone, and each side finds its own objects
as it alone would have left them.

* `Division` — to which side each name and each place belongs.
* `Request.Within` — the request names objects of one side only.
* `Bench.Divided` — names and processors lead to memories of their own side.
* `Bench.Agrees` — two benches look the same to a side.
* `Bench.Update` — what one request can change.
* `Bench.perform_within` — a side decides both the replies to its requests and their updates.
* `Bench.serve_interleaved` — the law for whole sessions.

### Memories that are added

A memory takes the next free place, whoever asks for it, so the number of that place tells a side
how many memories the others have added.  Such a request is within no side: the memories are dealt
out before the session begins.

### Bindings

A processor is bound to a place and not to a name, and a reset may bind it to another one.  The
request follows the binding that the processor has at that time.  That is why `Bench.Divided` speaks
of the places of processors, and has to be carried along the session.
-/

namespace Machine6502

/-! ## Directories with an entry replaced -/

namespace Directory

variable {α : Type} {directory : Directory α} {entry : Option (String × α)} {name : String}

/-- The directory with an entry entered or replaced, if there is one to be. -/
def enter (directory : Directory α) : Option (String × α) → Directory α
  | some (name, value) => directory.insert name value
  | none => directory

theorem find?_enter_congr {twin : Directory α} (same : twin.find? name = directory.find? name) :
    (twin.enter entry).find? name = (directory.enter entry).find? name := by
  match entry with
  | none => exact same
  | some (other, value) =>
    by_cases own : name = other
    · rw [own, enter, enter, find?_insert_self, find?_insert_self]
    · rw [enter, enter, find?_insert_of_ne _ _ own, find?_insert_of_ne _ _ own, same]

theorem find?_enter_of_ne (others : ∀ other value, entry = some (other, value) → name ≠ other) :
    (directory.enter entry).find? name = directory.find? name := by
  match entry with
  | none => rfl
  | some (other, value) => exact find?_insert_of_ne _ _ (others other value rfl)

/-- What is found is the entry, or was there before. -/
theorem eq_or_of_find?_enter {value : α} (found : (directory.enter entry).find? name = some value) :
    entry = some (name, value) ∨ directory.find? name = some value := by
  match entry with
  | none => exact .inr found
  | some (other, held) =>
    by_cases own : name = other
    · subst own
      rw [enter, find?_insert_self] at found
      cases found
      exact .inl rfl
    · rw [enter, find?_insert_of_ne _ _ own] at found
      exact .inr found

theorem mem_of_find? {value : α} (found : directory.find? name = some value) :
    (name, value) ∈ directory.entries := by
  obtain ⟨before, after, split, -⟩ := List.lookup_eq_some_iff.mp found
  rw [split]
  exact List.mem_append_right before List.mem_cons_self

end Directory

/-! ## Sides -/

/-- To which side the objects of a bench belong: the named ones by their names, and the memories by
their places too. -/
structure Division (Side : Type) where
  memory : String → Side
  place : Nat → Side
  processor : String → Side
  budget : String → Side
  snapshot : String → Side

/-- The division that sets one place apart from everything else. -/
def Division.apart (places : Directory Nat) (place : Nat) : Division Bool where
  memory name := places.find? name == some place
  place elsewhere := elsewhere == place
  processor _ := false
  budget _ := false
  snapshot _ := false

variable {Side : Type} {division : Division Side} {side other : Side}

/-- What is named beside the processor belongs to the side. -/
def ProcessorRequest.Within (division : Division Side) (side : Side) : ProcessorRequest → Prop
  | .reset (some memory) => division.memory memory = side
  | .snapshot name | .compare name => division.snapshot name = side
  | .reset none | .boundMemory | .setRegister _ _ | .getRegister _ | .setFlag _ _ | .getFlag _
  | .restore _ | .registers | .registerLine | .flagAccumulator | .setHook _ | .execute _ | .step =>
      True

/-- All that the request names belongs to the side. -/
def Request.Within (division : Division Side) (side : Side) : Request → Prop
  | .newMemory _ => False
  | .newProcessor name bound _ => division.processor name = side ∧ division.memory bound = side
  | .newBudget name _ | .charge name _ | .inspect name => division.budget name = side
  | .memory name _ => division.memory name = side
  | .writeWord name counter _ _ => division.memory name = side ∧ division.budget counter = side
  | .processor name request => division.processor name = side ∧ request.Within division side
  | .access name counter _ => division.processor name = side ∧ division.budget counter = side

instance [DecidableEq Side] (request : ProcessorRequest) :
    Decidable (request.Within division side) := by
  unfold ProcessorRequest.Within
  split <;> infer_instance

instance [DecidableEq Side] (request : Request) : Decidable (request.Within division side) := by
  unfold Request.Within
  split <;> infer_instance

namespace Bench

variable {bench twin : Bench}

/-- The names of memories lead to places of their side, and processors are bound to places of
theirs. -/
structure Divided (division : Division Side) (bench : Bench) : Prop where
  places : ∀ name place, bench.places.find? name = some place →
    division.place place = division.memory name
  processors : ∀ name processor, bench.processors.find? name = some processor →
    division.place processor.place = division.processor name

/-- The benches look the same to a side: they have the same places, and the memories, processors,
budgets and snapshots of the side are equal. -/
structure Agrees (division : Division Side) (side : Side) (bench twin : Bench) : Prop where
  places : twin.places = bench.places
  count : twin.memories.length = bench.memories.length
  memories : ∀ place, division.place place = side → twin.memoryAt place = bench.memoryAt place
  processors : ∀ name, division.processor name = side →
    twin.processors.find? name = bench.processors.find? name
  budgets : ∀ name, division.budget name = side →
    twin.budgets.find? name = bench.budgets.find? name
  snapshots : ∀ name, division.snapshot name = side →
    twin.snapshots.find? name = bench.snapshots.find? name

namespace Agrees

theorem refl (division : Division Side) (side : Side) (bench : Bench) :
    bench.Agrees division side bench :=
  ⟨rfl, rfl, fun _ _ => rfl, fun _ _ => rfl, fun _ _ => rfl, fun _ _ => rfl⟩

theorem symm (agrees : bench.Agrees division side twin) :
    twin.Agrees division side bench where
  places := agrees.places.symm
  count := agrees.count.symm
  memories place owner := (agrees.memories place owner).symm
  processors name owner := (agrees.processors name owner).symm
  budgets name owner := (agrees.budgets name owner).symm
  snapshots name owner := (agrees.snapshots name owner).symm

theorem trans {third : Bench} (agrees : bench.Agrees division side twin)
    (agrees' : twin.Agrees division side third) : bench.Agrees division side third where
  places := agrees'.places.trans agrees.places
  count := agrees'.count.trans agrees.count
  memories place owner := (agrees'.memories place owner).trans (agrees.memories place owner)
  processors name owner := (agrees'.processors name owner).trans (agrees.processors name owner)
  budgets name owner := (agrees'.budgets name owner).trans (agrees.budgets name owner)
  snapshots name owner := (agrees'.snapshots name owner).trans (agrees.snapshots name owner)

/-- A processor of the side makes up the same machine on both benches. -/
theorem machineOf (agrees : bench.Agrees division side twin) {processor : Processor}
    (home : division.place processor.place = side) :
    twin.machineOf processor = bench.machineOf processor := by
  rw [Bench.machineOf, agrees.memories _ home, Bench.machineOf]

end Agrees

/-! ## Updates -/

/-- What a request can change: the memory at one place, and one entry of each kind. -/
structure Update where
  memory : Option (Nat × Memory) := none
  processor : Option (String × Processor) := none
  budget : Option (String × Budget) := none
  snapshot : Option (String × Registers) := none

/-- The bench after an update. -/
def update (bench : Bench) (change : Update) : Bench where
  memories :=
    match change.memory with
    | some (place, memory) => bench.memories.set place memory
    | none => bench.memories
  places := bench.places
  processors := bench.processors.enter change.processor
  budgets := bench.budgets.enter change.budget
  snapshots := bench.snapshots.enter change.snapshot

/-- The update changes objects of the side, and binds a processor to a place of the side. -/
structure Update.On (division : Division Side) (side : Side) (change : Update) : Prop where
  memory : ∀ kept ∈ change.memory, division.place kept.1 = side := by simp
  processor : ∀ kept ∈ change.processor,
    division.processor kept.1 = side ∧ division.place kept.2.place = side := by simp
  budget : ∀ kept ∈ change.budget, division.budget kept.1 = side := by simp
  snapshot : ∀ kept ∈ change.snapshot, division.snapshot kept.1 = side := by simp

theorem Update.On.nothing (division : Division Side) (side : Side) :
    Update.On division side {} := {}

theorem memoryAt_set_self_congr {memories memories' : List Memory} (memory : Memory) (place : Nat)
    (same : memories'.length = memories.length) :
    (memories'.set place memory).getD place .blank =
      (memories.set place memory).getD place .blank := by
  rw [List.getD_eq_getElem?_getD, List.getD_eq_getElem?_getD, List.getElem?_set_self',
    List.getElem?_set_self']
  by_cases inside : place < memories.length
  · rw [List.getElem?_eq_getElem inside, List.getElem?_eq_getElem (same ▸ inside)]
    rfl
  · rw [List.getElem?_eq_none (Nat.not_lt.mp inside),
      List.getElem?_eq_none (same ▸ Nat.not_lt.mp inside)]

theorem memoryAt_set_of_ne {memories : List Memory} (memory : Memory) {place elsewhere : Nat}
    (ne : elsewhere ≠ place) :
    (memories.set place memory).getD elsewhere .blank = memories.getD elsewhere .blank := by
  rw [List.getD_eq_getElem?_getD, List.getElem?_set_ne ne.symm, List.getD_eq_getElem?_getD]

/-- The same update keeps benches in agreement. -/
theorem Agrees.update (agrees : bench.Agrees division side twin) (change : Update) :
    (bench.update change).Agrees division side (twin.update change) where
  places := agrees.places
  count := by
    simp only [Bench.update]
    split
    · rw [List.length_set, List.length_set, agrees.count]
    · exact agrees.count
  memories elsewhere owner := by
    simp only [Bench.update, memoryAt]
    split
    · next place memory _ =>
      by_cases same : elsewhere = place
      · rw [same, memoryAt_set_self_congr memory place agrees.count]
      · rw [memoryAt_set_of_ne memory same, memoryAt_set_of_ne memory same]
        exact agrees.memories elsewhere owner
    · exact agrees.memories elsewhere owner
  processors name owner := Directory.find?_enter_congr (agrees.processors name owner)
  budgets name owner := Directory.find?_enter_congr (agrees.budgets name owner)
  snapshots name owner := Directory.find?_enter_congr (agrees.snapshots name owner)

/-- **An update of one side does not show on another.** -/
theorem agrees_update {change : Update} (on : change.On division other) (ne : other ≠ side) :
    bench.Agrees division side (bench.update change) where
  places := rfl
  count := by
    simp only [update]
    split
    · rw [List.length_set]
    · rfl
  memories elsewhere owner := by
    simp only [update, memoryAt]
    split
    · next place memory changed =>
      refine memoryAt_set_of_ne memory ?_
      rintro rfl
      exact ne ((on.memory _ changed).symm.trans owner)
    · rfl
  processors name owner := by
    apply Directory.find?_enter_of_ne
    rintro _ processor changed rfl
    exact ne ((on.processor _ changed).1.symm.trans owner)
  budgets name owner := by
    apply Directory.find?_enter_of_ne
    rintro _ budget changed rfl
    exact ne ((on.budget _ changed).symm.trans owner)
  snapshots name owner := by
    apply Directory.find?_enter_of_ne
    rintro _ snapshot changed rfl
    exact ne ((on.snapshot _ changed).symm.trans owner)

theorem Divided.update (divided : bench.Divided division) {change : Update}
    (on : change.On division side) : (bench.update change).Divided division where
  places := divided.places
  processors name processor found := by
    rcases Directory.eq_or_of_find?_enter found with changed | before
    · obtain ⟨owner, home⟩ := on.processor (name, processor) changed
      exact home.trans owner.symm
    · exact divided.processors name processor before

/-! ## Requests -/

/-- What is asked is settled by the side: it fails alike on all benches that look the same to the
side, or it is answered alike and is one update of the side. -/
def Confined (division : Division Side) (side : Side) (bench : Bench)
    (ask : Bench → Except Problem (Reply × Bench)) : Prop :=
  (∃ problem, ∀ twin, bench.Agrees division side twin → ask twin = .error problem) ∨
    ∃ reply change, Update.On division side change ∧
      ∀ twin, bench.Agrees division side twin → ask twin = .ok (reply, twin.update change)

namespace Confined

variable {ask ask' : Bench → Except Problem (Reply × Bench)}

theorem congr (confined : Confined division side bench ask)
    (same : ∀ twin, bench.Agrees division side twin → ask' twin = ask twin) :
    Confined division side bench ask' := by
  rcases confined with ⟨problem, fails⟩ | ⟨reply, change, on, answers⟩
  · exact .inl ⟨problem, fun twin agrees => (same twin agrees).trans (fails twin agrees)⟩
  · exact .inr ⟨reply, change, on, fun twin agrees =>
      (same twin agrees).trans (answers twin agrees)⟩

/-- What is required first has to be an object of the side. -/
theorem require {α : Type} {name : String} {find : Bench → Option α}
    {rest : Bench → α → Except Problem (Reply × Bench)}
    (same : ∀ twin, bench.Agrees division side twin → find twin = find bench)
    (later : ∀ object, find bench = some object →
      Confined division side bench fun twin => rest twin object) :
    Confined division side bench fun twin => Bench.require name (find twin) >>= rest twin := by
  cases found : find bench with
  | none =>
    refine .inl ⟨.noSuchObject name, fun twin agrees => ?_⟩
    show (Bench.require name (find twin) >>= rest twin) = _
    rw [same twin agrees, found]
    rfl
  | some object =>
    refine (later object found).congr fun twin agrees => ?_
    rw [same twin agrees, found]
    rfl

theorem throw (problem : Problem) : Confined division side bench fun _ => .error problem :=
  .inl ⟨problem, fun _ _ => rfl⟩

theorem update (reply : Reply) {change : Update} (on : change.On division side) :
    Confined division side bench fun twin => .ok (reply, twin.update change) :=
  .inr ⟨reply, change, on, fun _ _ => rfl⟩

theorem answer (value : Value) :
    Confined division side bench fun twin => .ok (twin.answer value) :=
  update { result := .ok value } (Update.On.nothing division side)

theorem setProcessor {name : String} {processor : Processor} (reply : Reply)
    (owner : division.processor name = side) (home : division.place processor.place = side) :
    Confined division side bench fun twin => .ok (reply, twin.setProcessor name processor) := by
  have on : Update.On division side { processor := some (name, processor) } :=
    { processor := by simpa using ⟨owner, home⟩ }
  exact update reply on

theorem setMachine {name : String} {processor : Processor} (reply : Reply) (machine : Machine)
    (hook : Option Hook) (owner : division.processor name = side)
    (home : division.place processor.place = side) :
    Confined division side bench fun twin =>
      .ok (reply, twin.setMachine name processor machine hook) := by
  have on : Update.On division side
      { memory := some (processor.place, machine.memory)
        processor := some (name, { processor with registers := machine.registers, hook }) } :=
    { memory := by simpa using home
      processor := by simpa using ⟨owner, home⟩ }
  exact update reply on

theorem setBudget {name : String} (reply : Reply) (budget : Budget)
    (owner : division.budget name = side) :
    Confined division side bench fun twin => .ok (reply, twin.setBudget name budget) := by
  have on : Update.On division side { budget := some (name, budget) } :=
    { budget := by simpa using owner }
  exact update reply on

end Confined

variable {name : String} {processor : Processor}

/-- A request to a processor is confined to the side of the processor. -/
theorem confined_performProcessor (owner : division.processor name = side)
    (home : division.place processor.place = side) (divided : bench.Divided division)
    {request : ProcessorRequest} (within : request.Within division side) :
    Confined division side bench fun twin => twin.performProcessor name processor request := by
  -- A run is the same on all of the benches, because it starts from the same machine.
  have runs (cycles : Int) :
      Confined division side bench fun twin => .ok (twin.execute name processor cycles) :=
    (Confined.setMachine (bench.execute name processor cycles).1 _ _ owner home).congr
      fun twin agrees => by rw [execute, agrees.machineOf home]; rfl
  cases request with
  | reset memory =>
    cases memory with
    | none =>
      exact .setMachine { result := .ok .nothing } (bench.machineOf processor).reset _ owner home
    | some other =>
      refine .require (fun twin agrees => by rw [agrees.places]) fun place named => ?_
      have moved : division.place place = side := (divided.places other place named).trans within
      exact .setMachine { result := .ok .nothing }
        (bench.machineOf { processor with place }).reset _ owner moved
  | boundMemory =>
    exact (Confined.answer _).congr fun twin agrees => by rw [performProcessor, agrees.places]; rfl
  | setRegister | setFlag | restore | flagAccumulator | setHook =>
    exact .setProcessor { result := .ok .nothing } owner home
  | getRegister | getFlag | registers | registerLine => exact .answer _
  | snapshot kept =>
    have owned : division.snapshot kept = side := within
    have on : Update.On division side { snapshot := some (kept, processor.registers) } :=
      { snapshot := by simpa using owned }
    exact .update { result := .ok .nothing } on
  | compare kept =>
    exact .require (fun twin agrees => agrees.snapshots kept within) fun _ _ => .answer _
  | execute cycles => exact runs cycles
  | step => exact runs 1

/-- An access draws on the machine of the processor and on the budget, which are of one side. -/
theorem confined_performAccess {budgetName : String} (owner : division.processor name = side)
    (home : division.place processor.place = side) (payer : division.budget budgetName = side)
    (budget : Budget) (request : AccessRequest) :
    Confined division side bench fun twin =>
      .ok (twin.performAccess name processor budgetName budget request) := by
  have put (reply : Reply) (state : Clocked) :
      Confined division side bench fun twin => .ok (reply,
        (twin.setMachine name processor state.toMachine processor.hook).setBudget budgetName
          state.budget) := by
    have on : Update.On division side
        { memory := some (processor.place, state.memory)
          processor := some (name, { processor with registers := state.registers })
          budget := some (budgetName, state.budget) } :=
      { memory := by simpa using home
        processor := by simpa using ⟨owner, home⟩
        budget := by simpa using payer }
    exact .update reply on
  cases run : request.perform { bench.machineOf processor with budget } with
  | ok value state =>
    exact (put { result := .ok value } state).congr fun twin agrees => by
      simp only [performAccess, agrees.machineOf home, run]
      rfl
  | error fault state =>
    exact (put { result := .error (.fault fault) } state).congr fun twin agrees => by
      simp only [performAccess, agrees.machineOf home, run]

/-- A request that names objects of one side is confined to it: what it requires belongs to the
side, and so do the places that its names and its processor lead to. -/
theorem confined_perform? (divided : bench.Divided division) {request : Request}
    (within : request.Within division side) :
    Confined division side bench fun twin => twin.perform? request := by
  cases request with
  | newMemory name => exact within.elim
  | newProcessor name memory stackMode =>
    obtain ⟨owner, bound⟩ := within
    cases mode : StackMode.ofText stackMode with
    | error problem =>
      exact (Confined.throw problem).congr fun twin _ => by rw [perform?, mode]; rfl
    | ok stackMode =>
      have later : Confined division side bench fun twin =>
          Bench.require memory (twin.places.find? memory) >>= fun place =>
            .ok ((twin.setProcessor name { stackMode, place }).answer .nothing) := by
        refine .require (fun twin agrees => by rw [agrees.places]) fun place named => ?_
        exact .setProcessor _ owner ((divided.places memory place named).trans bound)
      exact later.congr fun twin _ => by rw [perform?, mode]; rfl
  | newBudget name cycles => exact .setBudget _ _ within
  | memory name request =>
    refine .require (fun twin agrees => by rw [agrees.places]) fun place named => ?_
    have home : division.place place = side := (divided.places name place named).trans within
    have on : Update.On division side
        { memory := some (place, (request.perform (bench.memoryAt place)).2) } :=
      { memory := by simpa using home }
    let result := (request.perform (bench.memoryAt place)).1.mapError Problem.fault
    refine (Confined.update { result } on).congr fun twin agrees => ?_
    rw [agrees.memories place home]
    rfl
  | writeWord memory counter address value =>
    obtain ⟨named, payer⟩ := within
    refine .require (fun twin agrees => by rw [agrees.places]) fun place found => ?_
    have home : division.place place = side := (divided.places memory place found).trans named
    refine .require (fun twin agrees => agrees.budgets counter payer) fun budget _ => ?_
    cases written : (bench.memoryAt place).writeWord address value budget with
    | error fault =>
      refine (Confined.throw (.fault fault)).congr fun twin agrees => ?_
      rw [agrees.memories place home, written]
      rfl
    | ok changed =>
      obtain ⟨memory, budget⟩ := changed
      have on : Update.On division side
          { memory := some (place, memory), budget := some (counter, budget) } :=
        { memory := by simpa using home, budget := by simpa using payer }
      refine (Confined.update { result := .ok .nothing } on).congr fun twin agrees => ?_
      rw [agrees.memories place home, written]
      rfl
  | charge name cycles =>
    exact .require (fun twin agrees => agrees.budgets name within) fun _ _ => .setBudget _ _ within
  | inspect name =>
    exact .require (fun twin agrees => agrees.budgets name within) fun _ _ => .answer _
  | processor name request =>
    obtain ⟨owner, within⟩ := within
    refine .require (fun twin agrees => agrees.processors name owner) fun processor found => ?_
    exact confined_performProcessor owner ((divided.processors name processor found).trans owner)
      divided within
  | access name counter request =>
    obtain ⟨owner, payer⟩ := within
    refine .require (fun twin agrees => agrees.processors name owner) fun processor found => ?_
    refine .require (fun twin agrees => agrees.budgets counter payer) fun budget _ => ?_
    exact confined_performAccess owner ((divided.processors name processor found).trans owner) payer
      budget request

/-- **A side decides about its requests.**  On all benches that look the same to it, the reply is
the same and the bench is changed by the same update of the side. -/
theorem perform_within (divided : bench.Divided division) {request : Request}
    (within : request.Within division side) :
    ∃ reply change, Update.On division side change ∧
      ∀ twin, bench.Agrees division side twin →
        twin.perform request = (reply, twin.update change) := by
  rcases confined_perform? divided within with ⟨problem, fails⟩ | ⟨reply, change, on, answers⟩
  · exact ⟨{ result := .error problem }, {}, .nothing division side,
      fun twin agrees => perform_of_error (fails twin agrees)⟩
  · exact ⟨reply, change, on, fun twin agrees => perform_of_ok (answers twin agrees)⟩

/-! ## Sessions of several sides -/

/-- The replies to a list of requests. -/
def replies (bench : Bench) : List Request → List Reply
  | [] => []
  | request :: rest => (bench.perform request).1 :: (bench.perform request).2.replies rest

/-- The replies to a list of requests of several sides, each with the side that it goes to. -/
def exchange (bench : Bench) : List (Side × Request) → List (Side × Reply)
  | [] => []
  | (side, request) :: rest =>
      (side, (bench.perform request).1) :: (bench.perform request).2.exchange rest

end Bench

/-- What belongs to one side, in its order. -/
def ofSide [DecidableEq Side] {α : Type} (side : Side) (turns : List (Side × α)) : List α :=
  (turns.filter fun turn => turn.1 = side).map (·.2)

section

variable [DecidableEq Side] {α : Type}

theorem ofSide_cons_self (side : Side) (item : α) (turns : List (Side × α)) :
    ofSide side ((side, item) :: turns) = item :: ofSide side turns := by
  rw [ofSide, List.filter_cons_of_pos (by simp), List.map_cons, ofSide]

theorem ofSide_cons_of_ne (item : α) (turns : List (Side × α)) (ne : other ≠ side) :
    ofSide side ((other, item) :: turns) = ofSide side turns := by
  rw [ofSide, List.filter_cons_of_neg (by simpa using ne), ofSide]

end

namespace Bench

variable {bench alone : Bench}

/-- A side that works on a bench of its own cannot tell it from one that it shares. -/
theorem agrees_of_session [DecidableEq Side] (divided : bench.Divided division)
    {session : List (Side × Request)} (within : ∀ turn ∈ session, turn.2.Within division turn.1)
    (agrees : bench.Agrees division side alone) :
    ofSide side (bench.exchange session) = alone.replies (ofSide side session) ∧
      (bench.serve (session.map (·.2))).Agrees division side
        (alone.serve (ofSide side session)) := by
  induction session generalizing bench alone with
  | nil => exact ⟨rfl, agrees⟩
  | cons turn rest ih =>
    obtain ⟨actor, request⟩ := turn
    obtain ⟨here, later⟩ := List.forall_mem_cons.mp within
    obtain ⟨reply, change, on, answers⟩ := perform_within divided here
    have shared : bench.perform request = (reply, bench.update change) :=
      answers bench (.refl division actor bench)
    rw [exchange, List.map_cons, serve_cons, shared]
    -- A request of the side makes the same update on both benches; any other one is made on the
    -- shared bench only, where the side does not see it.
    by_cases own : actor = side
    · subst own
      rw [ofSide_cons_self, ofSide_cons_self, replies, serve_cons, answers alone agrees]
      obtain ⟨same, final⟩ := ih (divided.update on) later (agrees.update change)
      exact ⟨congrArg (reply :: ·) same, final⟩
    · rw [ofSide_cons_of_ne _ _ own, ofSide_cons_of_ne _ _ own]
      exact ih (divided.update on) later ((agrees_update on own).symm.trans agrees)

/-! ## Bindings that change -/

variable {place : Nat}

/-- Whether a bench is divided can be read off its entries. -/
theorem Divided.of_entries
    (places : ∀ entry ∈ bench.places.entries, division.place entry.2 = division.memory entry.1)
    (processors : ∀ entry ∈ bench.processors.entries,
      division.place entry.2.place = division.processor entry.1) : bench.Divided division where
  places name place found := places (name, place) (Directory.mem_of_find? found)
  processors name processor found := processors (name, processor) (Directory.mem_of_find? found)

/-- A memory that no processor is bound to keeps its content under requests that do not name it. -/
theorem memoryAt_serve_of_apart
    (free : ∀ name processor, bench.processors.find? name = some processor →
      processor.place ≠ place)
    {requests : List Request}
    (apart : ∀ request ∈ requests, request.Within (.apart bench.places place) false) :
    (bench.serve requests).memoryAt place = bench.memoryAt place := by
  have divided : bench.Divided (.apart bench.places place) :=
    { places := fun name elsewhere named => by simp [Division.apart, named]
      processors := fun name processor found => by
        simpa [Division.apart] using free name processor found }
  have within : ∀ turn ∈ requests.map (false, ·),
      turn.2.Within (.apart bench.places place) turn.1 := by
    simpa using apart
  have agrees := (agrees_of_session divided within (.refl _ true bench)).2
  -- The place is of a side that asks for nothing.
  have untouched : ofSide true (requests.map (false, ·)) = [] := by
    simp [ofSide]
  rw [untouched, List.map_map] at agrees
  have same := agrees.memories place (by simp [Division.apart])
  simpa [Function.comp_def] using same.symm

theorem perform_rebind {target : String}
    (found : bench.processors.find? name = some processor)
    (named : bench.places.find? target = some place) :
    (bench.perform (.processor name (.reset (some target)))).2 =
      bench.update
        { memory := some (place, .blank)
          processor := some (name, { processor with registers := {}, place }) } := by
  have answers : bench.perform? (.processor name (.reset (some target))) = _ :=
    perform?_processor found _
  rw [performProcessor, named] at answers
  rw [perform_of_ok answers]
  rfl

/-- A processor that is bound to another memory leaves the one behind as it is, and so does all that
follows until the memory is named again. -/
theorem memoryAt_serve_of_rebind {target : String}
    (found : bench.processors.find? name = some processor)
    (named : bench.places.find? target = some place) (moves : place ≠ processor.place)
    (sole : ∀ other held, bench.processors.find? other = some held → other ≠ name →
      held.place ≠ processor.place)
    {rest : List Request}
    (apart : ∀ request ∈ rest, request.Within (.apart bench.places processor.place) false) :
    (bench.serve (.processor name (.reset (some target)) :: rest)).memoryAt processor.place =
      bench.memoryAt processor.place := by
  let rebound := bench.update
    { memory := some (place, .blank)
      processor := some (name, { processor with registers := {}, place }) }
  have free : ∀ other held, rebound.processors.find? other = some held →
      held.place ≠ processor.place := by
    intro other held is
    by_cases same : other = name
    · rw [same] at is
      cases (bench.processors.find?_insert_self name _).symm.trans is
      exact moves
    · exact sole other held ((bench.processors.find?_insert_of_ne _ same).symm.trans is) same
  rw [serve_cons, perform_rebind found named]
  calc (rebound.serve rest).memoryAt processor.place
      = rebound.memoryAt processor.place := memoryAt_serve_of_apart free apart
    _ = bench.memoryAt processor.place := memoryAt_set_of_ne _ moves.symm

/-- **Machines of different sides do not interfere**, however their requests are interleaved,
whether these fail or succeed, and wherever processors are bound in between.  Each side is given the
replies that it would be given alone, and finds its processors, memories, budgets and kept registers
as it would have left them alone.  A processor that a reset binds to another memory leaves the old
one with its content, which nothing changes from then on but a request that names that memory. -/
theorem serve_interleaved [DecidableEq Side] (divided : bench.Divided division)
    (session : List (Side × Request)) (within : ∀ turn ∈ session, turn.2.Within division turn.1) :
    let reached := bench.serve (session.map (·.2))
    (∀ side, ofSide side (bench.exchange session) = bench.replies (ofSide side session) ∧
      (bench.serve (ofSide side session)).Agrees division side reached) ∧
    ∀ name processor target place,
      reached.processors.find? name = some processor → reached.places.find? target = some place →
      place ≠ processor.place →
      (∀ other held, reached.processors.find? other = some held → other ≠ name →
        held.place ≠ processor.place) →
      ∀ rest : List Request,
        (∀ request ∈ rest, request.Within (.apart reached.places processor.place) false) →
        let rebound := reached.serve (.processor name (.reset (some target)) :: rest)
        rebound.memoryAt processor.place = reached.memoryAt processor.place := by
  intro reached
  refine ⟨fun side => ?_, ?_⟩
  · obtain ⟨same, final⟩ := agrees_of_session divided within (.refl division side bench)
    exact ⟨same, final.symm⟩
  · intro name processor target place found named moves sole rest apart
    exact memoryAt_serve_of_rebind found named moves sole apart

/-- The call of the first side faults at the end of the memory, after its operand was consumed,
while the second side pushes a word and reads it back.  The first processor then leaves its memory
for another one, and runs. -/
theorem serve_interleaved_faults :
    let bench := ({} : Bench).serve
      [.newMemory "m", .newMemory "n", .newMemory "far", .newProcessor "c" "m" none,
        .newProcessor "d" "far" (some "paged"), .newBudget "b" 5]
    let division : Division Bool :=
      { memory := (· == "far"), place := (· == 2), processor := (· == "d"), budget := (· == "b")
        snapshot := fun _ => false }
    let session : List (Bool × Request) :=
      [(false, .memory "m" (.write 0xFFFC 0x20)), (true, .access "d" "b" (.pushWord 0x1234)),
        (false, .processor "c" (.setRegister .sp 0xFFFF)),
        (true, .access "d" "b" (.readWord 0x0100)), (false, .processor "c" .step),
        (true, .processor "d" (.getRegister .sp))]
    let rest : List Request := [.processor "c" (.execute 3), .memory "far" .clear]
    let reached := bench.serve (session.map (·.2))
    bench.Divided division ∧ (∀ turn ∈ session, turn.2.Within division turn.1) ∧
      (ofSide false (bench.exchange session)).map (·.result.toOption) =
        [some .nothing, some .nothing, none] ∧
      (ofSide true (bench.exchange session)).map (·.result.toOption) =
        [some .nothing, some (.number 0x1234), some (.number 0x0102)] ∧
      let rebound := reached.serve (.processor "c" (.reset (some "n")) :: rest)
      (rebound.memoryAt 0).get 0xFFFC = 0x20 := by
  intro bench division session rest reached
  have divided : bench.Divided division := by
    refine .of_entries ?_ ?_ <;> decide
  have within : ∀ turn ∈ session, turn.2.Within division turn.1 := by
    decide
  obtain ⟨sides, rebinding⟩ := serve_interleaved divided session within
  refine ⟨divided, within, ?_, ?_, ?_⟩
  · rw [(sides false).1]
    decide +kernel
  · rw [(sides true).1]
    decide +kernel
  · obtain ⟨processor, found, home⟩ : ∃ processor,
        reached.processors.find? "c" = some processor ∧ processor.place = 0 :=
      Option.map_eq_some_iff.mp (by decide +kernel)
    have sole : ∀ entry ∈ reached.processors.entries, entry.1 ≠ "c" → entry.2.place ≠ 0 := by
      decide +kernel
    have kept := rebinding "c" processor "n" 1 found (by decide +kernel) (by rw [home]; decide)
      (fun other held is ne => home ▸ sole (other, held) (Directory.mem_of_find? is) ne)
      rest (by rw [home]; decide +kernel)
    rw [home] at kept
    refine (congrArg (Memory.get · 0xFFFC) kept).trans ?_
    decide +kernel

end Bench

end Machine6502
