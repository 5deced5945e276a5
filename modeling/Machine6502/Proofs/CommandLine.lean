import Machine6502.Command.Settings
import Machine6502.Proofs.DumpRange

/-!
# What a command line expresses

The reader of a command line goes through it argument by argument and through the switches in the
order in which they came, and stops at the first thing wrong.  What it accepts can be said without
any order: each switch was given values that its notation accepts, and the settings hold the last
of them, or what they hold by default.  This module proves that the reader accepts exactly that.

* `Arguments.WellFormed` — a switch has a value exactly when it takes one, which splitting a
  command line makes sure of.
* `Settings.Says` — what the settings hold about one switch.
* `Arguments.Express`, `Settings.ExpressedBy` — the settings that some arguments, or a command
  line, express.
* `Demand.ofCommandLine_eq_run` — a command line asks for a run exactly when it expresses its
  settings.
* `Settings.Sound` — settings that were accepted are in range.
-/

namespace Machine6502

namespace Command

/-! ## Splitting a command line -/

/-- A switch takes no value. -/
abbrev Switch.IsFlag (switch : Switch) : Prop := switch.takesValue = false

/-- A switch comes with a value exactly when it takes one. -/
def Given.WellFormed (given : Given) : Prop := given.value.isSome = given.switch.takesValue

/-- Each of the switches comes with a value exactly when it takes one. -/
def Arguments.WellFormed (arguments : Arguments) : Prop :=
  ∀ given ∈ arguments.given, given.WellFormed

/-- The switches of a token are flags, except for the last one of a valued token. -/
def Token.WellFormed : Token → Prop
  | .terminator | .positional => True
  | .flags switches => ∀ switch ∈ switches, switch.IsFlag
  | .valued switches switch _ _ => (∀ flag ∈ switches, flag.IsFlag) ∧ switch.takesValue = true

theorem Token.wellFormed_ofLetters {letters : List Char} {token : Token}
    (reads : ofLetters letters = .ok token) : token.WellFormed := by
  fun_induction ofLetters letters generalizing token with
  | case1 => cases reads; exact nofun
  | case2 letter rest unknown => cases reads
  | case3 letter rest switch known valued => cases reads; exact ⟨nofun, valued⟩
  | case4 letter rest switch known flag switches later ih =>
    cases reads
    exact List.forall_mem_cons.mpr ⟨Bool.eq_false_iff.mpr flag, ih later⟩
  | case5 letter rest switch known flag switches last name attached later ih =>
    cases reads
    obtain ⟨flags, valued⟩ := ih later
    exact ⟨List.forall_mem_cons.mpr ⟨Bool.eq_false_iff.mpr flag, flags⟩, valued⟩
  | case6 letter rest switch known flag notFlags notValued ih => exact ih reads

theorem Token.wellFormed_ofLongName {name : String} {attached : Option String} {token : Token}
    (reads : ofLongName name attached = .ok token) : token.WellFormed := by
  unfold ofLongName at reads
  split at reads
  · cases reads
  · next switch known =>
    split at reads
    · next valued =>
      cases reads
      exact ⟨nofun, valued⟩
    · next flag =>
      split at reads
      · cases reads
      · cases reads
        exact List.forall_mem_singleton.mpr (Bool.eq_false_iff.mpr flag)

theorem Token.wellFormed_ofArgument {argument : String} {token : Token}
    (reads : ofArgument argument = .ok token) : token.WellFormed := by
  unfold ofArgument at reads
  split at reads
  · cases reads
    trivial
  · split at reads <;> exact wellFormed_ofLongName reads
  · exact wellFormed_ofLetters reads
  · cases reads
    trivial

namespace Arguments

variable {arguments : Arguments} {commandLine : List String} {switches : List Switch}
  {switch : Switch}

theorem WellFormed.withGiven (wellFormed : arguments.WellFormed) {given : List Given}
    (front : ∀ switch ∈ given, switch.WellFormed) : (arguments.withGiven given).WellFormed :=
  List.forall_mem_append.mpr ⟨front, wellFormed⟩

theorem wellFormed_flags (flags : ∀ switch ∈ switches, switch.IsFlag) :
    ∀ given ∈ switches.map fun switch => ({ switch } : Given), given.WellFormed := by
  intro given member
  obtain ⟨switch, listed, rfl⟩ := List.mem_map.mp member
  exact (flags switch listed).symm

theorem wellFormed_valued (flags : ∀ switch ∈ switches, switch.IsFlag)
    (valued : switch.takesValue = true) (value : String) :
    ∀ given ∈ switches.map (fun switch => ({ switch } : Given)) ++ [⟨switch, some value⟩],
      given.WellFormed :=
  List.forall_mem_append.mpr ⟨wellFormed_flags flags, List.forall_mem_singleton.mpr valued.symm⟩

/-- **Splitting gives every switch the value it takes**, and no other one. -/
theorem wellFormed_ofList (splits : ofList commandLine = .ok arguments) : arguments.WellFormed := by
  fun_induction ofList commandLine generalizing arguments with
  | case1 => cases splits; exact nofun
  | case2 argument rest misuse token => cases splits
  | case3 argument rest token => cases splits; exact nofun
  | case4 argument rest token ih =>
    obtain ⟨later, split, rfl⟩ := Checked.map_eq_ok.mp splits
    have kept : later.WellFormed := ih split
    exact kept
  | case5 argument rest switches token ih =>
    obtain ⟨later, split, rfl⟩ := Checked.map_eq_ok.mp splits
    exact WellFormed.withGiven (ih split) (wellFormed_flags (Token.wellFormed_ofArgument token))
  | case6 argument rest switches switch name value token ih =>
    obtain ⟨later, split, rfl⟩ := Checked.map_eq_ok.mp splits
    obtain ⟨flags, valued⟩ := Token.wellFormed_ofArgument token
    exact WellFormed.withGiven (ih split) (wellFormed_valued flags valued value)
  | case7 argument switches switch name token => cases splits
  | case8 argument switches switch name token value rest ih =>
    obtain ⟨later, split, rfl⟩ := Checked.map_eq_ok.mp splits
    obtain ⟨flags, valued⟩ := Token.wellFormed_ofArgument token
    exact WellFormed.withGiven (ih split) (wellFormed_valued flags valued value)

/-- A flag in front is read by itself. -/
theorem ofList_flag {argument : String} (token : Token.ofArgument argument = .ok (.flags [switch]))
    (commandLine : List String) :
    ofList (argument :: commandLine) = (ofList commandLine).map (·.withGiven [{ switch }]) := by
  rw [ofList, token]
  rfl

/-- So is a switch with the value that follows it, whatever the value looks like. -/
theorem ofList_valued {argument name : String}
    (token : Token.ofArgument argument = .ok (.valued [] switch name none)) (value : String)
    (commandLine : List String) :
    ofList (argument :: value :: commandLine) =
      (ofList commandLine).map (·.withGiven [⟨switch, some value⟩]) := by
  rw [ofList, token]
  rfl

end Arguments

/-! ## What the switches say -/

namespace Arguments

variable {arguments : Arguments} {switch : Switch}

/-- The last value given to a switch. -/
def lastValue? (arguments : Arguments) (switch : Switch) : Option String :=
  (arguments.valuesOf switch).getLast?

/-- The number given to a switch, if it was given. -/
def number? (arguments : Arguments) (switch : Switch) (limit : Int) :
    Except BadArgument (Option Nat) :=
  (arguments.lastValue? switch).mapM fun text => readNumber text limit

theorem mem_switches :
    switch ∈ arguments.switches ↔ ∃ given ∈ arguments.given, given.switch = switch := by
  rw [switches, List.mem_eraseDups, List.mem_map]

theorem valuesOf_of_absent (absent : switch ∉ arguments.switches) :
    arguments.valuesOf switch = [] := by
  rw [valuesOf, List.filterMap_eq_nil_iff]
  intro given member
  exact if_neg fun same => absent (mem_switches.mpr ⟨given, member, same⟩)

theorem lastValue?_of_absent (absent : switch ∉ arguments.switches) :
    arguments.lastValue? switch = none := by
  rw [lastValue?, valuesOf_of_absent absent]
  rfl

/-- A switch that takes a value and was given has a last value, which is the one that is taken. -/
theorem WellFormed.lastValue?_eq (wellFormed : arguments.WellFormed)
    (valued : switch.takesValue = true) (present : switch ∈ arguments.switches) :
    arguments.lastValue? switch = some ((arguments.valuesOf switch).getLastD "") := by
  obtain ⟨given, member, rfl⟩ := mem_switches.mp present
  obtain ⟨value, found⟩ := Option.isSome_iff_exists.mp ((wellFormed given member).trans valued)
  have listed : value ∈ arguments.valuesOf given.switch :=
    List.mem_filterMap.mpr ⟨given, member, by rw [if_pos rfl, found]⟩
  rw [lastValue?]
  cases values : arguments.valuesOf given.switch with
  | nil => rw [values] at listed; cases listed
  | cons first rest => rw [List.getLast?_cons, List.getLastD_cons, List.getLastD_eq_getLast?]

theorem number?_of_last {text : String} {limit : Int}
    (last : arguments.lastValue? switch = some text) :
    arguments.number? switch limit = (readNumber text limit).map some := by
  rw [number?, last, Option.mapM_some]
  cases readNumber text limit <;> rfl

theorem number?_of_absent {limit : Int} (absent : switch ∉ arguments.switches) :
    arguments.number? switch limit = .ok none := by
  rw [number?, lastValue?_of_absent absent]
  rfl

end Arguments

namespace Settings

/-- What the settings hold about one switch: what its last value says, or the default. -/
def Says (settings : Settings) (arguments : Arguments) : Switch → Prop
  | .bytes => settings.bytes = arguments.lastValue? .bytes
  | .address =>
      ∃ address, arguments.number? .address 0xFFFF = .ok address ∧
        settings.address = address.getD 0xFFFC
  | .pc => arguments.number? .pc 0xFFFF = .ok settings.pc
  | .cycles =>
      match arguments.lastValue? .cycles with
      | some text => Numeral.read? .decimal text.toList = some settings.cycles
      | none => settings.cycles = 0
  | .stackMode =>
      match arguments.lastValue? .stackMode with
      | some text => StackMode.ofName? text = some settings.stackMode
      | none => settings.stackMode = .flat
  | .x => arguments.number? .x 0xFF = .ok settings.x
  | .y => arguments.number? .y 0xFF = .ok settings.y
  | .dump => (arguments.valuesOf .dump).mapM DumpRange.read = .ok settings.dumps
  | .trace => settings.trace = decide (.trace ∈ arguments.switches)
  | .verbose => settings.verbose = decide (.verbose ∈ arguments.switches)
  | .version | .help => True

variable {settings left : Settings} {arguments : Arguments} {switch other : Switch}

theorem accept_eq_ok {α : Type} {result : Except BadArgument α} {value : α} :
    accept switch result = .ok value ↔ result = .ok value := by
  cases result <;> simp [accept, refuse]

theorem readCycles_eq_ok {text : String} {cycles : Int} :
    readCycles text = .ok cycles ↔ Numeral.read? .decimal text.toList = some cycles := by
  rw [readCycles]
  cases Numeral.read? .decimal text.toList <;> simp [refuse]

theorem readStackMode_eq_ok {text : String} {stackMode : StackMode} :
    readStackMode text = .ok stackMode ↔ StackMode.ofName? text = some stackMode := by
  rw [readStackMode]
  cases StackMode.ofName? text <;> simp [refuse]

theorem mapM_accept_eq_ok {texts : List String} {ranges : List DumpRange} :
    (texts.mapM fun text => accept switch (DumpRange.read text)) = .ok ranges ↔
      texts.mapM DumpRange.read = .ok ranges := by
  induction texts generalizing ranges with
  | nil => simp only [List.mapM_nil, Checked.pure_eq_ok]
  | cons text rest ih =>
    simp only [List.mapM_cons, Checked.bind_eq_ok, Checked.pure_eq_ok, accept_eq_ok, ih]

/-- **What taking the values of a switch does**: it changes one setting, to what the last value
reads as. -/
theorem take_eq_ok {values : List String} :
    settings.take switch values = .ok left ↔
      let value := values.getLastD ""
      match switch with
      | .bytes => { settings with bytes := some value } = left
      | .address =>
          ∃ address, readNumber value 0xFFFF = .ok address ∧ { settings with address } = left
      | .pc => ∃ pc, readNumber value 0xFFFF = .ok pc ∧ { settings with pc := some pc } = left
      | .cycles =>
          ∃ cycles, Numeral.read? .decimal value.toList = some cycles ∧
            { settings with cycles } = left
      | .stackMode =>
          ∃ stackMode, StackMode.ofName? value = some stackMode ∧
            { settings with stackMode } = left
      | .x => ∃ x, readNumber value 0xFF = .ok x ∧ { settings with x := some x } = left
      | .y => ∃ y, readNumber value 0xFF = .ok y ∧ { settings with y := some y } = left
      | .dump => ∃ dumps, values.mapM DumpRange.read = .ok dumps ∧ { settings with dumps } = left
      | .trace => { settings with trace := true } = left
      | .verbose => { settings with verbose := true } = left
      | .version | .help => settings = left := by
  cases switch <;> simp only [take, Checked.bind_eq_ok, Checked.pure_eq_ok, accept_eq_ok,
    readCycles_eq_ok, readStackMode_eq_ok, mapM_accept_eq_ok]

theorem program_of_take {values : List String} (takes : settings.take switch values = .ok left) :
    left.program = settings.program := by
  rw [take_eq_ok] at takes
  cases switch with
  | bytes | trace | verbose | version | help => cases takes; rfl
  | address | pc | cycles | stackMode | x | y | dump => obtain ⟨_, -, rfl⟩ := takes; rfl

/-- Taking the values of a switch leaves alone what is said about the others. -/
theorem says_other_of_take {values : List String} (takes : settings.take switch values = .ok left)
    (ne : other ≠ switch) (stated : settings.Says arguments other) : left.Says arguments other := by
  rw [take_eq_ok] at takes
  cases switch with
  | bytes | trace | verbose | version | help =>
    cases takes
    cases other <;> first | exact stated | exact absurd rfl ne
  | address | pc | cycles | stackMode | x | y | dump =>
    obtain ⟨_, -, rfl⟩ := takes
    cases other <;> first | exact stated | exact absurd rfl ne

/-- Taking the values of a switch that was given makes the settings say it. -/
theorem says_of_take (wellFormed : arguments.WellFormed) (present : switch ∈ arguments.switches)
    (takes : settings.take switch (arguments.valuesOf switch) = .ok left) :
    left.Says arguments switch := by
  have last (valued : switch.takesValue = true) := wellFormed.lastValue?_eq valued present
  rw [take_eq_ok] at takes
  cases switch with
  | bytes =>
    cases takes
    exact (last rfl).symm
  | address =>
    obtain ⟨address, reads, rfl⟩ := takes
    exact ⟨some address, by rw [Arguments.number?_of_last (last rfl), reads]; rfl, rfl⟩
  | pc | x | y =>
    obtain ⟨number, reads, rfl⟩ := takes
    rw [Says, Arguments.number?_of_last (last rfl), reads]
    rfl
  | cycles | stackMode =>
    obtain ⟨value, reads, rfl⟩ := takes
    rw [Says, last rfl]
    exact reads
  | dump =>
    obtain ⟨dumps, reads, rfl⟩ := takes
    exact reads
  | trace | verbose =>
    cases takes
    exact (decide_eq_true present).symm
  | version | help => trivial

/-- What can be said about a switch can be taken. -/
theorem take_of_said (wellFormed : arguments.WellFormed) (present : switch ∈ arguments.switches)
    {target : Settings} (stated : target.Says arguments switch) (settings : Settings) :
    ∃ left, settings.take switch (arguments.valuesOf switch) = .ok left := by
  have last (valued : switch.takesValue = true) := wellFormed.lastValue?_eq valued present
  simp only [take_eq_ok]
  cases switch with
  | bytes | trace | verbose | version | help => exact ⟨_, rfl⟩
  | address =>
    obtain ⟨given, reads, -⟩ := stated
    rw [Arguments.number?_of_last (last rfl)] at reads
    obtain ⟨address, reads, -⟩ := Checked.map_eq_ok.mp reads
    exact ⟨_, address, reads, rfl⟩
  | pc | x | y =>
    rw [Says, Arguments.number?_of_last (last rfl)] at stated
    obtain ⟨number, reads, -⟩ := Checked.map_eq_ok.mp stated
    exact ⟨_, number, reads, rfl⟩
  | cycles | stackMode =>
    rw [Says, last rfl] at stated
    exact ⟨_, _, stated, rfl⟩
  | dump => exact ⟨_, _, stated, rfl⟩

/-- Nothing is said about a switch that was not given but the default. -/
theorem says_default (absent : switch ∉ arguments.switches) :
    Says { cycles := 0 } arguments switch := by
  have noValue := Arguments.lastValue?_of_absent absent
  have noNumber (limit : Int) : arguments.number? switch limit = .ok none :=
    Arguments.number?_of_absent absent
  cases switch with
  | bytes => exact noValue.symm
  | address => exact ⟨none, noNumber _, rfl⟩
  | pc | x | y => exact noNumber _
  | cycles | stackMode => rw [Says, noValue]
  | dump =>
    rw [Says, Arguments.valuesOf_of_absent absent]
    rfl
  | trace | verbose => exact (decide_eq_false absent).symm
  | version | help => trivial

/-- Settings that say the same about every switch are the same, but for their program. -/
theorem eq_of_said (stated : ∀ switch, settings.Says arguments switch)
    (stated' : ∀ switch, left.Says arguments switch) (program : left.program = settings.program) :
    left = settings := by
  have bytes := (stated' .bytes).trans (stated .bytes).symm
  have address : left.address = settings.address := by
    obtain ⟨address, reads, same⟩ := stated .address
    obtain ⟨address', reads', same'⟩ := stated' .address
    cases reads.symm.trans reads'
    exact same'.trans same.symm
  have pc := Except.ok.inj ((stated' .pc).symm.trans (stated .pc))
  have cycles : left.cycles = settings.cycles := by
    have reads := stated .cycles
    have reads' := stated' .cycles
    rw [Says] at reads reads'
    cases last : arguments.lastValue? .cycles with
    | some text =>
      rw [last] at reads reads'
      exact Option.some.inj (reads'.symm.trans reads)
    | none =>
      rw [last] at reads reads'
      exact reads'.trans reads.symm
  have stackMode : left.stackMode = settings.stackMode := by
    have reads := stated .stackMode
    have reads' := stated' .stackMode
    rw [Says] at reads reads'
    cases last : arguments.lastValue? .stackMode with
    | some text =>
      rw [last] at reads reads'
      exact Option.some.inj (reads'.symm.trans reads)
    | none =>
      rw [last] at reads reads'
      exact reads'.trans reads.symm
  have x := Except.ok.inj ((stated' .x).symm.trans (stated .x))
  have y := Except.ok.inj ((stated' .y).symm.trans (stated .y))
  have dumps := Except.ok.inj ((stated' .dump).symm.trans (stated .dump))
  have trace := (stated' .trace).trans (stated .trace).symm
  have verbose := (stated' .verbose).trans (stated .verbose).symm
  cases left
  cases settings
  rw [Settings.mk.injEq]
  exact ⟨program, bytes, address, pc, cycles, stackMode, x, y, dumps, trace, verbose⟩

/-- Taking all switches that were given, in any order, makes the settings say what every switch
says. -/
theorem says_of_takeAll (wellFormed : arguments.WellFormed) {switches : List Switch}
    (present : ∀ switch ∈ switches, switch ∈ arguments.switches)
    (takes : takeAll arguments switches settings = .ok left)
    (said : ∀ switch ∉ switches, settings.Says arguments switch) :
    left.program = settings.program ∧ ∀ switch, left.Says arguments switch := by
  induction switches generalizing settings with
  | nil =>
    cases takes
    exact ⟨rfl, fun switch => said switch List.not_mem_nil⟩
  | cons switch rest ih =>
    obtain ⟨mid, first, later⟩ := Checked.bind_eq_ok.mp takes
    obtain ⟨here, present⟩ := List.forall_mem_cons.mp present
    have said' : ∀ other ∉ rest, mid.Says arguments other := by
      intro other absent
      by_cases same : other = switch
      · rw [same]
        exact says_of_take wellFormed here first
      · exact says_other_of_take first same
          (said other fun member => (List.mem_cons.mp member).elim same absent)
    obtain ⟨program, stated⟩ := ih present later said'
    exact ⟨program.trans (program_of_take first), stated⟩

theorem takeAll_of_said (wellFormed : arguments.WellFormed) {switches : List Switch}
    (present : ∀ switch ∈ switches, switch ∈ arguments.switches) {target : Settings}
    (stated : ∀ switch, target.Says arguments switch) (settings : Settings) :
    ∃ left, takeAll arguments switches settings = .ok left := by
  induction switches generalizing settings with
  | nil => exact ⟨settings, rfl⟩
  | cons switch rest ih =>
    obtain ⟨here, present⟩ := List.forall_mem_cons.mp present
    obtain ⟨mid, first⟩ := take_of_said wellFormed here (stated switch) settings
    obtain ⟨left, later⟩ := ih present mid
    exact ⟨left, Checked.bind_eq_ok.mpr ⟨mid, first, later⟩⟩

end Settings

/-! ## What the whole command line asks for -/

/-- The arguments express the settings of a run: no switch asks for something else, the cycles are
given, each setting is what its switch says, and the one positional argument, if there is any,
leads to the file that is the program. -/
structure Arguments.Express (files : Files) (arguments : Arguments) (settings : Settings) :
    Prop where
  version : .version ∉ arguments.switches
  help : .help ∉ arguments.switches
  cycles : .cycles ∈ arguments.switches
  stated : ∀ switch, settings.Says arguments switch
  program :
    match arguments.positional with
    | [] => settings.program = none
    | [path] =>
        ∃ contents, files.lookUp path = .ok (.file contents) ∧ settings.program = some contents
    | _ => False

/-- The command line is accepted, and these are the settings of the run that it asks for. -/
def Settings.ExpressedBy (settings : Settings) (files : Files) (commandLine : List String) : Prop :=
  ∃ arguments, Arguments.ofList commandLine = .ok arguments ∧ arguments.Express files settings

namespace Settings

variable {files : Files} {arguments : Arguments} {settings : Settings}

theorem openProgram_eq_ok {path : String} {contents : List UInt8} :
    openProgram files path = .ok contents ↔ files.lookUp path = .ok (.file contents) := by
  simp only [openProgram, Checked.bind_eq_ok, Checked.mapError_eq_ok]
  constructor
  · rintro ⟨entry, found, opens⟩
    cases entry with
    | file other => cases opens; exact found
    | missing | directory => cases opens
  · exact fun found => ⟨_, found, rfl⟩

/-- The steps of the reader, all of which have to succeed. -/
theorem ofArguments_eq_ok :
    ofArguments files arguments = .ok settings ↔
      ∃ taken, takeAll arguments arguments.switches { cycles := 0 } = .ok taken ∧
      ∃ program, arguments.positional.head?.mapM (openProgram files) = .ok program ∧
        .cycles ∈ arguments.switches ∧ arguments.positional.tail = [] ∧
          { taken with program } = settings := by
  simp only [ofArguments, Checked.bind_eq_ok, Checked.mapError_eq_ok]
  constructor
  · rintro ⟨taken, takes, program, opens, checked⟩
    refine ⟨taken, takes, program, opens, ?_⟩
    by_cases given : .cycles ∈ arguments.switches
    · rw [if_neg (not_not_intro given)] at checked
      split at checked
      · next single => exact ⟨given, single, Checked.pure_eq_ok.mp checked⟩
      · cases checked
    · rw [if_pos given] at checked
      cases checked
  · rintro ⟨taken, takes, program, opens, given, single, same⟩
    refine ⟨taken, takes, program, opens, ?_⟩
    rw [if_neg (not_not_intro given), single]
    exact Checked.pure_eq_ok.mpr same

/-- The program of some positional arguments: none, or the contents of the one file. -/
theorem program_eq_ok {positional : List String} {program : Option (List UInt8)} :
    positional.head?.mapM (openProgram files) = .ok program ∧ positional.tail = [] ↔
      match positional with
      | [] => program = none
      | [path] => ∃ contents, files.lookUp path = .ok (.file contents) ∧ program = some contents
      | _ => False := by
  match positional with
  | [] =>
    show (pure none : Except Obstacle _) = .ok program ∧ [] = [] ↔ program = none
    rw [Checked.pure_eq_ok, and_iff_left rfl, eq_comm]
  | [path] =>
    show Option.mapM (openProgram files) (some path) = .ok program ∧ [] = [] ↔ _
    rw [Option.mapM_some, and_iff_left rfl]
    show (openProgram files path).map some = .ok program ↔ _
    simp only [Checked.map_eq_ok, openProgram_eq_ok]
    exact exists_congr fun contents => and_congr_right fun _ => eq_comm
  | path :: second :: rest => exact ⟨fun both => (nomatch both.2), False.elim⟩

/-- **The reader accepts what is expressed.**  Whatever the order of the switches, the settings it
makes are the ones that say what the switches say. -/
theorem ofArguments_eq_ok_iff (wellFormed : arguments.WellFormed) :
    ofArguments files arguments = .ok settings ↔
      .cycles ∈ arguments.switches ∧ (∀ switch, settings.Says arguments switch) ∧
        match arguments.positional with
        | [] => settings.program = none
        | [path] =>
            ∃ contents, files.lookUp path = .ok (.file contents) ∧ settings.program = some contents
        | _ => False := by
  rw [← program_eq_ok, ofArguments_eq_ok]
  constructor
  · rintro ⟨taken, takes, program, opens, given, single, rfl⟩
    obtain ⟨-, stated⟩ := says_of_takeAll wellFormed (fun _ => id) takes fun _ => says_default
    refine ⟨given, ?_, opens, single⟩
    intro switch
    have said := stated switch
    cases switch <;> exact said
  · rintro ⟨given, stated, opens, single⟩
    obtain ⟨taken, takes⟩ := takeAll_of_said wellFormed (fun _ => id) stated { cycles := 0 }
    obtain ⟨-, stated'⟩ := says_of_takeAll wellFormed (fun _ => id) takes fun _ => says_default
    refine ⟨taken, takes, settings.program, opens, given, single, ?_⟩
    apply eq_of_said stated
    · intro switch
      have said := stated' switch
      cases switch <;> exact said
    · rfl

end Settings

/-- **A command line asks for a run exactly when it expresses the settings of the run.** -/
theorem Demand.ofCommandLine_eq_run {files : Files} {commandLine : List String}
    {settings : Settings} :
    ofCommandLine files commandLine = .ok (.run settings) ↔
      settings.ExpressedBy files commandLine := by
  simp only [Settings.ExpressedBy, ofCommandLine, Checked.bind_eq_ok, Checked.mapError_eq_ok]
  refine exists_congr fun arguments => and_congr_right fun splits => ?_
  have reader : Settings.ofArguments files arguments = .ok settings ↔ _ :=
    Settings.ofArguments_eq_ok_iff (Arguments.wellFormed_ofList splits)
  cases found : arguments.switches.find? fun switch => switch = .version ∨ switch = .help with
  | none =>
    rw [List.find?_eq_none] at found
    have version : .version ∉ arguments.switches := fun member => found _ member (by decide)
    have help : .help ∉ arguments.switches := fun member => found _ member (by decide)
    simp only [Checked.bind_eq_ok, Checked.pure_eq_ok, Demand.run.injEq, exists_eq_right, reader]
    constructor
    · rintro ⟨cycles, stated, program⟩
      exact ⟨version, help, cycles, stated, program⟩
    · rintro ⟨-, -, cycles, stated, program⟩
      exact ⟨cycles, stated, program⟩
  | some switch =>
    have asked := List.find?_some found
    have listed := List.mem_of_find?_eq_some found
    constructor
    · intro runs
      cases switch <;> cases runs
    · intro expressed
      rw [decide_eq_true_eq] at asked
      rcases asked with rfl | rfl
      · exact absurd listed expressed.version
      · exact absurd listed expressed.help

/-! ## Accepted settings -/

/-- The numbers of the settings are in range, and each range to be dumped lies inside the
memory. -/
structure Settings.Sound (settings : Settings) : Prop where
  address : settings.address < 65536
  pc : ∀ pc ∈ settings.pc, pc < 65536
  x : ∀ x ∈ settings.x, x < 256
  y : ∀ y ∈ settings.y, y < 256
  dumps : ∀ range ∈ settings.dumps, range.start < 65536 ∧ range.start + range.count ≤ 65536

theorem Arguments.le_of_number? {arguments : Arguments} {switch : Switch} {limit : Int}
    {given : Option Nat} (reads : arguments.number? switch limit = .ok given) :
    ∀ number ∈ given, (number : Int) ≤ limit := by
  rintro number rfl
  cases last : arguments.lastValue? switch with
  | none =>
    rw [number?, last] at reads
    cases reads
  | some text =>
    rw [number?_of_last last] at reads
    obtain ⟨number', reads, same⟩ := Checked.map_eq_ok.mp reads
    cases same
    exact (readNumber_eq_ok_iff.mp reads).1

theorem inside_of_mapM_read {texts : List String} {ranges : List DumpRange}
    (reads : texts.mapM DumpRange.read = .ok ranges) :
    ∀ range ∈ ranges, range.start < 65536 ∧ range.start + range.count ≤ 65536 := by
  induction texts generalizing ranges with
  | nil => cases reads; exact nofun
  | cons text rest ih =>
    simp only [List.mapM_cons, Checked.bind_eq_ok, Checked.pure_eq_ok] at reads
    obtain ⟨range, first, later, reads, rfl⟩ := reads
    exact List.forall_mem_cons.mpr ⟨DumpRange.inside_of_read first, ih reads⟩

/-- **Settings that a command line expresses are sound.** -/
theorem Arguments.Express.sound {files : Files} {arguments : Arguments} {settings : Settings}
    (expressed : arguments.Express files settings) : settings.Sound where
  address := by
    obtain ⟨given, reads, same⟩ := expressed.stated .address
    rw [same]
    cases given with
    | none => decide
    | some address =>
      have := le_of_number? reads address rfl
      show address < 65536
      omega
  pc pc member := by
    have := le_of_number? (expressed.stated .pc) pc member
    omega
  x x member := by
    have := le_of_number? (expressed.stated .x) x member
    omega
  y y member := by
    have := le_of_number? (expressed.stated .y) y member
    omega
  dumps := inside_of_mapM_read (expressed.stated .dump)

theorem Settings.ExpressedBy.sound {files : Files} {commandLine : List String}
    {settings : Settings} (expressed : settings.ExpressedBy files commandLine) :
    settings.Sound := by
  obtain ⟨arguments, -, expressed⟩ := expressed
  exact expressed.sound

theorem Settings.openProgram_eq_breakdown {files : Files} {path : String} {cause : Breakdown}
    (breaks : openProgram files path = .error (.breakdown cause)) : '\x00' ∈ path.toList := by
  simp only [openProgram, Checked.bind_eq_error, Checked.mapError_eq_error,
    Checked.mapError_eq_ok] at breaks
  rcases breaks with ⟨cause, fails, -⟩ | ⟨entry, -, opens⟩
  · unfold Files.lookUp at fails
    split at fails
    · next null => exact null
    · cases fails
  · cases entry <;> cases opens

theorem Settings.ofArguments_eq_breakdown {files : Files} {arguments : Arguments}
    {cause : Breakdown} (breaks : ofArguments files arguments = .error (.breakdown cause)) :
    ∃ path, arguments.positional.head? = some path ∧ '\x00' ∈ path.toList := by
  simp only [ofArguments, Checked.bind_eq_error, Checked.mapError_eq_error, reduceCtorEq,
    and_false, exists_false, false_or] at breaks
  obtain ⟨taken, -, opens | ⟨program, -, checked⟩⟩ := breaks
  · cases first : arguments.positional.head? with
    | none => rw [first] at opens; cases opens
    | some path =>
      have opens : openProgram files path = .error (.breakdown cause) := by
        rw [first, Option.mapM_some] at opens
        cases result : openProgram files path with
        | ok contents => rw [result] at opens; cases opens
        | error obstacle => rw [result] at opens; cases opens; rfl
      exact ⟨path, rfl, openProgram_eq_breakdown opens⟩
  · -- From here on everything that is wrong is a misuse.
    split at checked
    · cases checked
    · split at checked <;> cases checked

/-- **What breaks a command down**: the program argument is looked up and holds a null character.
Everything else that is wrong with a command line is a misuse, which is reported. -/
theorem Demand.ofCommandLine_eq_breakdown {files : Files} {commandLine : List String}
    {cause : Breakdown} (breaks : ofCommandLine files commandLine = .error (.breakdown cause)) :
    ∃ arguments path, Arguments.ofList commandLine = .ok arguments ∧
      arguments.positional.head? = some path ∧ '\x00' ∈ path.toList := by
  simp only [ofCommandLine, Checked.bind_eq_error, Checked.mapError_eq_error,
    Checked.mapError_eq_ok, reduceCtorEq, and_false, exists_false, false_or] at breaks
  obtain ⟨arguments, splits, breaks⟩ := breaks
  split at breaks
  · cases breaks
  · cases breaks
  · rcases Checked.bind_eq_error.mp breaks with breaks | ⟨settings, -, runs⟩
    · obtain ⟨path, first, null⟩ := Settings.ofArguments_eq_breakdown breaks
      exact ⟨arguments, path, splits, first, null⟩
    · cases runs

end Command

end Machine6502
