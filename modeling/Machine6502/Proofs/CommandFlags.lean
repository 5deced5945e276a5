import Machine6502.Proofs.CommandLine

/-!
# Flags in front of a command line

Two switches of the command take no value and change only what it tells beside its output: the one
for a trace and the one for details.  Put in front of a command line, such a flag is the first
switch to be taken, and the later occurrences of it are taken no more.  This module proves that
nothing else comes of it: the command line asks for the same, with the flag turned on, or the same
is wrong with it.

* `Switch.Tells` — the two switches.
* `Settings.mark`, `Demand.mark` — settings, and what is asked for, with one of them turned on.
* `Settings.takeAll_flag` — taking the flag first, and then the other switches.
* `Demand.ofCommandLine_flag` — the whole reader.
-/

namespace Machine6502

namespace Command

/-- The switch changes what a run tells beside its output. -/
def Switch.Tells (switch : Switch) : Prop := switch = .trace ∨ switch = .verbose

/-- The settings with one of these switches turned on. -/
def Settings.mark (settings : Settings) : Switch → Settings
  | .trace => { settings with trace := true }
  | .verbose => { settings with verbose := true }
  | _ => settings

/-- The demand with one of these switches turned on, which only a run listens to. -/
def Demand.mark (flag : Switch) : Demand → Demand
  | .run settings => .run (settings.mark flag)
  | .showVersion => .showVersion
  | .showHelp => .showHelp

/-- Repetitions can be dropped after a selection or before it. -/
theorem eraseDups_filter (keep : Switch → Bool) (switches : List Switch) :
    (switches.filter keep).eraseDups = switches.eraseDups.filter keep := by
  match switches with
  | [] => rfl
  | first :: rest =>
    have shorter : (rest.filter fun other => !other == first).length < (first :: rest).length :=
      Nat.lt_succ_of_le (List.length_filter_le _ _)
    rw [List.eraseDups_cons]
    by_cases kept : keep first = true
    · rw [List.filter_cons_of_pos kept, List.filter_cons_of_pos kept, List.eraseDups_cons,
        ← eraseDups_filter keep, List.filter_filter, List.filter_filter]
      simp only [Bool.and_comm]
    · rw [List.filter_cons_of_neg kept, List.filter_cons_of_neg kept, ← eraseDups_filter keep,
        List.filter_filter]
      refine congrArg List.eraseDups (List.filter_congr fun other _ => ?_)
      by_cases same : other = first
      · simp [same, kept]
      · simp [same]
termination_by switches.length
decreasing_by all_goals exact shorter

namespace Arguments

variable {arguments : Arguments} {flag : Switch}

theorem switches_withFlag (arguments : Arguments) (flag : Switch) :
    (arguments.withGiven [{ switch := flag }]).switches =
      flag :: arguments.switches.filter fun other => !other == flag := by
  rw [switches, withGiven, List.singleton_append, List.map_cons, List.eraseDups_cons,
    eraseDups_filter, switches]

theorem valuesOf_withFlag (arguments : Arguments) (flag switch : Switch) :
    (arguments.withGiven [{ switch := flag }]).valuesOf switch = arguments.valuesOf switch := by
  rw [valuesOf, withGiven, List.singleton_append, List.filterMap_cons, valuesOf]
  by_cases same : flag = switch <;> simp [same]

end Arguments

namespace Settings

variable {settings : Settings} {arguments : Arguments} {flag : Switch}

theorem mark_mark (settings : Settings) (flag : Switch) :
    (settings.mark flag).mark flag = settings.mark flag := by
  cases flag <;> rfl

theorem take_flag (tells : flag.Tells) (settings : Settings) (values : List String) :
    settings.take flag values = .ok (settings.mark flag) := by
  rcases tells with rfl | rfl <;> rfl

/-- Turning a flag on commutes with taking values. -/
theorem take_mark (tells : flag.Tells) (settings : Settings) (switch : Switch)
    (values : List String) :
    (settings.mark flag).take switch values = (settings.take switch values).map (·.mark flag) := by
  rcases tells with rfl | rfl
  all_goals
    cases switch with
    | bytes | trace | verbose | version | help => rfl
    | address | pc => simp only [take]; cases accept _ (readNumber _ _) <;> rfl
    | cycles => simp only [take]; cases readCycles _ <;> rfl
    | stackMode => simp only [take]; cases readStackMode _ <;> rfl
    | x | y => simp only [take]; cases accept _ (readNumber _ _) <;> rfl
    | dump =>
      simp only [take]
      cases values.mapM fun text => accept .dump (DumpRange.read text) <;> rfl

/-- A flag that is turned on first need not be taken later. -/
theorem takeAll_flag (tells : flag.Tells) (switches : List Switch) (settings : Settings) :
    takeAll (arguments.withGiven [{ switch := flag }]) (switches.filter fun other => !other == flag)
        (settings.mark flag) =
      (takeAll arguments switches settings).map (·.mark flag) := by
  induction switches generalizing settings with
  | nil => rfl
  | cons switch rest ih =>
    rw [takeAll]
    by_cases same : switch = flag
    · subst same
      rw [List.filter_cons_of_neg (by simp), take_flag tells]
      have later := ih (settings.mark switch)
      rw [mark_mark] at later
      exact later
    · rw [List.filter_cons_of_pos (by simp [same]), takeAll, Arguments.valuesOf_withFlag,
        take_mark tells]
      cases settings.take switch (arguments.valuesOf switch) with
      | error misuse => rfl
      | ok left => exact ih left

theorem ofArguments_flag (tells : flag.Tells) (files : Files) (arguments : Arguments) :
    ofArguments files (arguments.withGiven [{ switch := flag }]) =
      (ofArguments files arguments).map (·.mark flag) := by
  have taken : takeAll (arguments.withGiven [{ switch := flag }])
      (arguments.withGiven [{ switch := flag }]).switches { cycles := 0 } =
        (takeAll arguments arguments.switches { cycles := 0 }).map (·.mark flag) := by
    rw [Arguments.switches_withFlag, takeAll, take_flag tells]
    exact takeAll_flag tells arguments.switches { cycles := 0 }
  have given : .cycles ∈ (arguments.withGiven [{ switch := flag }]).switches ↔
      .cycles ∈ arguments.switches := by
    rw [Arguments.switches_withFlag]
    rcases tells with rfl | rfl <;> simp
  have positional : (arguments.withGiven [{ switch := flag }]).positional = arguments.positional :=
    rfl
  simp only [ofArguments, taken, given, positional]
  cases takeAll arguments arguments.switches { cycles := 0 } with
  | error misuse => rfl
  | ok settings =>
    cases arguments.positional.head?.mapM (openProgram files) with
    | error obstacle => rfl
    | ok program =>
      by_cases cycles : .cycles ∈ arguments.switches
      · simp only [if_neg (not_not_intro cycles)]
        cases arguments.positional.tail with
        | nil => rcases tells with rfl | rfl <;> rfl
        | cons first rest => rfl
      · simp only [if_pos cycles]
        rfl

end Settings

/-- **A flag in front of a command line turns itself on**, and changes nothing else in what the
command line asks for, or in what is wrong with it. -/
theorem Demand.ofCommandLine_flag {flag : Switch} (tells : flag.Tells) {argument : String}
    (token : Token.ofArgument argument = .ok (.flags [flag])) (files : Files)
    (commandLine : List String) :
    ofCommandLine files (argument :: commandLine) =
      (ofCommandLine files commandLine).map (mark flag) := by
  have splits := Arguments.ofList_flag token commandLine
  cases split : Arguments.ofList commandLine with
  | error misuse =>
    rw [split] at splits
    rw [ofCommandLine, ofCommandLine, splits, split]
    rfl
  | ok arguments =>
    rw [split] at splits
    have front : Arguments.ofList (argument :: commandLine) =
        .ok (arguments.withGiven [{ switch := flag }]) := splits
    have first : (arguments.withGiven [{ switch := flag }]).switches.find?
          (fun switch => switch = .version ∨ switch = .help) =
        arguments.switches.find? fun switch => switch = .version ∨ switch = .help := by
      rw [Arguments.switches_withFlag, List.find?_cons_of_neg, List.find?_filter]
      · congr 1
        funext switch
        rcases tells with rfl | rfl <;> cases switch <;> rfl
      · rcases tells with rfl | rfl <;> decide
    rw [ofCommandLine, ofCommandLine, front, split, Checked.mapError_ok_bind,
      Checked.mapError_ok_bind, first]
    cases arguments.switches.find? fun switch => switch = .version ∨ switch = .help with
    | some switch => cases switch <;> rfl
    | none =>
      dsimp only
      rw [Settings.ofArguments_flag tells]
      cases Settings.ofArguments files arguments <;> rfl

end Command

end Machine6502
