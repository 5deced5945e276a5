import Machine6502.Proofs.CommandLine

/-!
# Invocations of the command

The command is invoked in words: the name of a switch and then its value, and after `--` the path
of the program.  This module writes such an invocation down, name by name, and says next to it what
it means: which setting each of its texts is read as, and which default takes the place of a text
that is not there.  Neither of the two mentions the tables of the reader.  That the reader agrees
with them is what is proved.

* `Invocation.commandLine` — the words of an invocation.
* `Invocation.Means` — the settings that an invocation stands for.
* `StackMode.ofName?_eq_some_iff` — the two stack modes have one name each.
* `Invocation.expressedBy_iff` — an invocation expresses the settings that it stands for, and no
  others.
-/

namespace Machine6502

/-- **A stack mode has one name**, and no other text names a mode. -/
theorem StackMode.ofName?_eq_some_iff {text : String} {mode : StackMode} :
    ofName? text = some mode ↔ text = "flat" ∧ mode = .flat ∨ text = "paged" ∧ mode = .paged := by
  constructor
  · intro found
    unfold ofName? at found
    have named := List.find?_some found
    rw [beq_iff_eq] at named
    cases mode with
    | flat => exact .inl ⟨named.symm, rfl⟩
    | paged => exact .inr ⟨named.symm, rfl⟩
  · rintro (⟨rfl, rfl⟩ | ⟨rfl, rfl⟩) <;> rfl

namespace Command

/-- An invocation of the command: the text of each argument that is given. -/
structure Invocation where
  /-- The path of the program. -/
  path : Option String := none
  bytes : Option String := none
  address : Option String := none
  pc : Option String := none
  cycles : String
  stackMode : Option String := none
  x : Option String := none
  y : Option String := none
  dumps : List String := []
  trace : Bool := false
  verbose : Bool := false
  /-- The switches that are called by the letter although they have a long name too. -/
  brief : Switch → Bool := fun _ => false

namespace Invocation

/-! ## The words of an invocation -/

/-- A switch, once for each of its values. -/
def written (name : String) (values : List String) : List String :=
  values.flatMap fun value => [name, value]

/-- The one of two names by which a switch is called. -/
def called (invocation : Invocation) (switch : Switch) (letter name : String) : String :=
  if invocation.brief switch then letter else name

/-- The words of an invocation. -/
def commandLine (invocation : Invocation) : List String :=
  written (invocation.called .bytes "-b" "--bytes") invocation.bytes.toList ++
    written (invocation.called .address "-a" "--address") invocation.address.toList ++
    written "--pc" invocation.pc.toList ++
    written (invocation.called .cycles "-n" "--cycles") [invocation.cycles] ++
    written "--stack-mode" invocation.stackMode.toList ++
    written "-x" invocation.x.toList ++
    written "-y" invocation.y.toList ++
    written "--dump" invocation.dumps ++
    (if invocation.trace then ["--trace"] else []) ++
    (if invocation.verbose then [invocation.called .verbose "-v" "--verbose"] else []) ++
    written "--" invocation.path.toList

/-- What an invocation stands for: each text is read as the setting that it is given for, and a
setting without a text has its default. -/
structure Means (invocation : Invocation) (files : Files) (settings : Settings) : Prop where
  program :
    match invocation.path with
    | none => settings.program = none
    | some path =>
        ∃ contents, files.lookUp path = .ok (.file contents) ∧ settings.program = some contents
  bytes : settings.bytes = invocation.bytes
  address :
    match invocation.address with
    | none => settings.address = 0xFFFC
    | some text => readNumber text 0xFFFF = .ok settings.address
  pc : (invocation.pc.mapM fun text => readNumber text 0xFFFF) = .ok settings.pc
  cycles : Numeral.read? .decimal invocation.cycles.toList = some settings.cycles
  stackMode :
    match invocation.stackMode with
    | none => settings.stackMode = .flat
    | some text =>
        text = "flat" ∧ settings.stackMode = .flat ∨ text = "paged" ∧ settings.stackMode = .paged
  x : (invocation.x.mapM fun text => readNumber text 0xFF) = .ok settings.x
  y : (invocation.y.mapM fun text => readNumber text 0xFF) = .ok settings.y
  /-- The ranges come in the order of their texts. -/
  dumps : invocation.dumps.mapM DumpRange.read = .ok settings.dumps
  trace : settings.trace = invocation.trace
  verbose : settings.verbose = invocation.verbose

/-! ## Splitting the words -/

variable {invocation : Invocation} {files : Files} {settings : Settings} {letter name : String}
  {switch : Switch} {rest : List String} {parts : Arguments}

/-- A word that is a name of a switch, and nothing more. -/
def Names (name : String) (switch : Switch) : Prop :=
  Token.ofArgument name =
    .ok (if switch.takesValue then .valued [] switch name none else .flags [switch])

theorem names_called (byLetter : Names letter switch) (byName : Names name switch) :
    Names (invocation.called switch letter name) switch := by
  unfold called
  split
  · exact byLetter
  · exact byName

/-- Values that follow the name of their switch are split off, and the rest is split by itself. -/
theorem ofList_written (names : Names name switch) (valued : switch.takesValue = true)
    (values : List String) (splits : Arguments.ofList rest = .ok parts) :
    Arguments.ofList (written name values ++ rest) =
      .ok (parts.withGiven (values.map fun value => ⟨switch, some value⟩)) := by
  rw [Names, if_pos valued] at names
  induction values with
  | nil => exact splits
  | cons value later ih =>
    have words : written name (value :: later) ++ rest =
        name :: value :: (written name later ++ rest) := rfl
    rw [words, Arguments.ofList_valued names, ih]
    rfl

/-- So is a flag. -/
theorem ofList_flag (names : Names name switch) (flag : switch.IsFlag) (given : Bool)
    (splits : Arguments.ofList rest = .ok parts) :
    Arguments.ofList ((if given then [name] else []) ++ rest) =
      .ok (parts.withGiven (if given then [{ switch }] else [])) := by
  rw [Names, flag, if_neg Bool.false_ne_true] at names
  cases given with
  | false => exact splits
  | true =>
    show Arguments.ofList (name :: rest) = _
    rw [Arguments.ofList_flag names, splits]
    rfl

/-- The parts of an invocation. -/
def arguments (invocation : Invocation) : Arguments where
  given :=
    let valued (switch : Switch) (values : List String) : List Given :=
      values.map fun value => ⟨switch, some value⟩
    valued .bytes invocation.bytes.toList ++ valued .address invocation.address.toList ++
      valued .pc invocation.pc.toList ++ valued .cycles [invocation.cycles] ++
      valued .stackMode invocation.stackMode.toList ++ valued .x invocation.x.toList ++
      valued .y invocation.y.toList ++ valued .dump invocation.dumps ++
      (if invocation.trace then [{ switch := .trace }] else []) ++
      (if invocation.verbose then [{ switch := .verbose }] else [])
  positional := invocation.path.toList

/-- **The words of an invocation are split into its parts.** -/
theorem ofList_commandLine (invocation : Invocation) :
    Arguments.ofList invocation.commandLine = .ok invocation.arguments := by
  have bytes : Names (invocation.called .bytes "-b" "--bytes") .bytes := names_called rfl rfl
  have address : Names (invocation.called .address "-a" "--address") .address :=
    names_called rfl rfl
  have pc : Names "--pc" .pc := rfl
  have cycles : Names (invocation.called .cycles "-n" "--cycles") .cycles := names_called rfl rfl
  have stackMode : Names "--stack-mode" .stackMode := rfl
  have x : Names "-x" .x := rfl
  have y : Names "-y" .y := rfl
  have dump : Names "--dump" .dump := rfl
  have trace : Names "--trace" .trace := rfl
  have verbose : Names (invocation.called .verbose "-v" "--verbose") .verbose :=
    names_called rfl rfl
  have path : Arguments.ofList (written "--" invocation.path.toList) =
      .ok { positional := invocation.path.toList } := by
    cases invocation.path <;> rfl
  have splits :=
    ofList_written bytes rfl invocation.bytes.toList <|
    ofList_written address rfl invocation.address.toList <|
    ofList_written pc rfl invocation.pc.toList <|
    ofList_written cycles rfl [invocation.cycles] <|
    ofList_written stackMode rfl invocation.stackMode.toList <|
    ofList_written x rfl invocation.x.toList <|
    ofList_written y rfl invocation.y.toList <|
    ofList_written dump rfl invocation.dumps <|
    ofList_flag trace rfl invocation.trace <|
    ofList_flag verbose rfl invocation.verbose path
  simpa only [commandLine, Invocation.arguments, Arguments.withGiven, List.append_assoc,
    List.append_nil] using splits

/-! ## What the parts say -/

theorem valuesOf_arguments (invocation : Invocation) (switch : Switch) :
    invocation.arguments.valuesOf switch =
      match switch with
      | .bytes => invocation.bytes.toList
      | .address => invocation.address.toList
      | .pc => invocation.pc.toList
      | .cycles => [invocation.cycles]
      | .stackMode => invocation.stackMode.toList
      | .x => invocation.x.toList
      | .y => invocation.y.toList
      | .dump => invocation.dumps
      | .trace | .verbose | .version | .help => [] := by
  cases switch <;>
    simp [Invocation.arguments, Arguments.valuesOf, List.filterMap_append, List.filterMap_map]

theorem lastValue?_arguments (invocation : Invocation) (switch : Switch) :
    invocation.arguments.lastValue? switch =
      match switch with
      | .bytes => invocation.bytes
      | .address => invocation.address
      | .pc => invocation.pc
      | .cycles => some invocation.cycles
      | .stackMode => invocation.stackMode
      | .x => invocation.x
      | .y => invocation.y
      | .dump => invocation.dumps.getLast?
      | .trace | .verbose | .version | .help => none := by
  have last (value : Option String) : value.toList.getLast? = value := by cases value <;> rfl
  rw [Arguments.lastValue?, valuesOf_arguments]
  cases switch <;> first | exact last _ | rfl

theorem mem_switches_arguments (invocation : Invocation) :
    Switch.version ∉ invocation.arguments.switches ∧ Switch.help ∉ invocation.arguments.switches ∧
      Switch.cycles ∈ invocation.arguments.switches ∧
      (Switch.trace ∈ invocation.arguments.switches ↔ invocation.trace = true) ∧
      (Switch.verbose ∈ invocation.arguments.switches ↔ invocation.verbose = true) := by
  simp [Invocation.arguments, Arguments.mem_switches, or_and_right, exists_or]

theorem says_address :
    settings.Says invocation.arguments .address ↔
      match invocation.address with
      | none => settings.address = 0xFFFC
      | some text => readNumber text 0xFFFF = .ok settings.address := by
  simp only [Settings.Says, Arguments.number?, lastValue?_arguments]
  cases invocation.address with
  | none =>
    show (∃ address, (.ok none : Except BadArgument _) = .ok address ∧ _) ↔ _
    simp only [Except.ok.injEq, exists_eq_left', Option.getD_none]
  | some text =>
    show (∃ address, (readNumber text 0xFFFF).map some = .ok address ∧ _) ↔ _
    simp only [Checked.map_eq_ok]
    constructor
    · rintro ⟨_, ⟨address, reads, rfl⟩, same⟩
      rw [same]
      exact reads
    · exact fun reads => ⟨_, ⟨_, reads, rfl⟩, rfl⟩

theorem says_stackMode :
    settings.Says invocation.arguments .stackMode ↔
      match invocation.stackMode with
      | none => settings.stackMode = .flat
      | some text =>
          text = "flat" ∧ settings.stackMode = .flat ∨
            text = "paged" ∧ settings.stackMode = .paged := by
  simp only [Settings.Says, lastValue?_arguments]
  cases invocation.stackMode with
  | none => rfl
  | some text => exact StackMode.ofName?_eq_some_iff

/-- **An invocation expresses the settings that it stands for**, and no others. -/
theorem expressedBy_iff :
    settings.ExpressedBy files invocation.commandLine ↔ invocation.Means files settings := by
  obtain ⟨version, help, cycles, trace, verbose⟩ := invocation.mem_switches_arguments
  constructor
  · rintro ⟨parts, splits, expressed⟩
    cases invocation.ofList_commandLine.symm.trans splits
    have said := expressed.stated
    exact
      { program := by
          have found := expressed.program
          cases path : invocation.path <;> simpa [Invocation.arguments, path] using found
        bytes := by simpa only [Settings.Says, lastValue?_arguments] using said .bytes
        address := says_address.mp (said .address)
        pc := by simpa only [Settings.Says, Arguments.number?, lastValue?_arguments] using said .pc
        cycles := by simpa only [Settings.Says, lastValue?_arguments] using said .cycles
        stackMode := says_stackMode.mp (said .stackMode)
        x := by simpa only [Settings.Says, Arguments.number?, lastValue?_arguments] using said .x
        y := by simpa only [Settings.Says, Arguments.number?, lastValue?_arguments] using said .y
        dumps := by simpa only [Settings.Says, valuesOf_arguments] using said .dump
        trace := by simpa only [Settings.Says, trace, Bool.decide_eq_true] using said .trace
        verbose := by simpa only [Settings.Says, verbose, Bool.decide_eq_true] using said .verbose }
  · intro means
    refine ⟨_, invocation.ofList_commandLine, version, help, cycles, ?_, ?_⟩
    · intro switch
      cases switch with
      | bytes => simpa only [Settings.Says, lastValue?_arguments] using means.bytes
      | address => exact says_address.mpr means.address
      | pc => simpa only [Settings.Says, Arguments.number?, lastValue?_arguments] using means.pc
      | cycles => simpa only [Settings.Says, lastValue?_arguments] using means.cycles
      | stackMode => exact says_stackMode.mpr means.stackMode
      | x => simpa only [Settings.Says, Arguments.number?, lastValue?_arguments] using means.x
      | y => simpa only [Settings.Says, Arguments.number?, lastValue?_arguments] using means.y
      | dump => simpa only [Settings.Says, valuesOf_arguments] using means.dumps
      | trace => simpa only [Settings.Says, trace, Bool.decide_eq_true] using means.trace
      | verbose => simpa only [Settings.Says, verbose, Bool.decide_eq_true] using means.verbose
      | version | help => trivial
    · have found := means.program
      cases path : invocation.path <;> simpa [Invocation.arguments, path] using found

end Invocation

end Command

end Machine6502
