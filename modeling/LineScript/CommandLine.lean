import LineScript.Dialogue
import LineScript.Options
import LineScript.SettingsFile

/-!
# The command line
The scripts of a command line are run in order, up to the first that fails: first the one that is
given in words, then the files. Without any, standard input is run, as one script or as a dialogue.
What is asked for of each run is printed before the next one begins.
-/
namespace LineScript.CommandLine

/-- A run that a command line asks for. -/
inductive Task where
  | words (script : String)
  | file (path : String)
  | input
  deriving DecidableEq, Repr

/-- What happens while a command line is carried out. -/
inductive Event where
  | ran (task : Task)
  | emitted (emission : Emission)

/-- How a command line was carried out: the machine after it, what happened, and the exit code, or
the fault that ended it. -/
structure Conclusion where
  machine : Machine
  events : List Event
  result : Except Fault Nat

/-- What was emitted, in order. -/
def emissions (events : List Event) : List Emission :=
  events.filterMap fun
    | .emitted emission => some emission
    | .ran _ => none

def tasksRun (events : List Event) : List Task :=
  events.filterMap fun
    | .ran task => some task
    | .emitted _ => none

def emitted (emissions : List Emission) : List Event := emissions.map .emitted

/-- The scripts of a command line in order, each with the exit code that tells of its failure: one
for the script in words, and for a file its place among the files. -/
def scriptTasks (options : Options) : List (Task × Nat) :=
  (match options.command with
    | some script => if script.isEmpty then [] else [(.words script, 1)]
    | none => []) ++
    options.scripts.zipIdx.map fun (path, index) => (.file path, index + 1)

/-- The tasks of a command line: its scripts, or standard input. -/
def tasks (options : Options) : List (Task × Nat) :=
  match scriptTasks options with
  | [] => [(.input, 1)]
  | scripts => scripts

/-- Does a task as one script. -/
def perform (settings : Settings) (input : List UInt8) (machine : Machine) : Task → Performance
  | .words script => settings.runScript machine "command" (.ofText script)
  | .file path => settings.runFile machine path
  | .input => settings.runScript machine "stdin" (.ofBytes input)

/-- What is printed of a report: the channels that are asked for, then the failure. -/
def reported (channels : Channels) (report : Report) : List Emission :=
  Emission.ofOutput (channels.present report.output report.log) ++ match report.failure with
    | some fault => [.message ("Error: " ++ fault.message)]
    | none => []

/-- Does tasks in order, up to the first that fails. -/
def performAll (perform : Machine → Task → Performance) (channels : Channels) :
    List (Task × Nat) → Machine → Conclusion
  | [], machine => ⟨machine, [], .ok 0⟩
  | (task, code) :: rest, machine =>
    let done := perform machine task
    let noted := .ran task :: emitted (Emission.ofNotes done.notes)
    match done.result with
    | .error fault => ⟨done.machine, noted, .error fault⟩
    | .ok report =>
      let events := noted ++ emitted (reported channels report)
      if report.success then
        let after := performAll perform channels rest done.machine
        { after with events := events ++ after.events }
      else ⟨done.machine, events, .ok code⟩

/-- Runs standard input as a dialogue, whose log is printed at its end. -/
def hold (settings : Settings) (channels : Channels) (machine : Machine) (isTerminal : Bool)
    (input : List UInt8) : Conclusion :=
  let dialogue := settings.converse machine isTerminal (.ofBytes input)
  let events := .ran .input :: emitted dialogue.emissions
  match dialogue.result with
  | .ok log =>
    let shown := if channels.log then printedStream none log else ""
    ⟨dialogue.machine, events ++ [.emitted (.out shown)], .ok 0⟩
  | .error fault =>
    if fault.isScript then
      ⟨dialogue.machine, events ++ [.emitted (.message ("Error: " ++ fault.message))], .ok 1⟩
    else ⟨dialogue.machine, events, .error fault⟩

/-- A fault in the settings that is reported: they are wrong, or their file is missing. -/
def isSettingsFault : Fault → Bool
  | .settings _ => true
  | .system (.refused number _ _) => number == 2
  | .system (.worded number _) => number == 2
  | _ => false

/-- The channels that are asked for by options or settings. -/
def channels (options : Options) (settings : Settings) : Channels where
  log := options.channels.log || settings.log
  stdout := options.channels.stdout || settings.stdout
  stderr := options.channels.stderr || settings.stderr

/-- Carries out what the options ask for. -/
def carryOut (options : Options) (machine : Machine) (isTerminal : Bool) (input : List UInt8) :
    Conclusion :=
  match Settings.load machine options.settings with
  | .error fault =>
    if isSettingsFault fault then
      ⟨machine, [.emitted (.message ("Config error: " ++ fault.message))], .ok 2⟩
    else ⟨machine, [], .error fault⟩
  | .ok settings =>
    let channels := channels options settings
    if options.isInteractive && (scriptTasks options).isEmpty then
      hold settings channels machine isTerminal input
    else performAll (perform settings input) channels (tasks options) machine

/-- What a command line comes to: help, a complaint about its options, or a run. -/
inductive Answer where
  | help
  | misused
  | ran (isVerbose : Bool) (outcome : Conclusion)

/-- Carries out a command line. Help is given if it is asked for anywhere and all options are
known. -/
def run (machine : Machine) (words : List String) (isTerminal : Bool) (input : List UInt8) :
    Answer :=
  match machine.platform.options words with
  | none => .misused
  | some options =>
    if options.wantsHelp then .help
    else .ran options.isVerbose (carryOut options machine isTerminal input)

/-- The exit code of a command line that is misused. -/
def misuseCode : Nat := 2

/-- The status that the caller sees: it keeps only the lowest eight bits of an exit code. -/
def status (code : Nat) : UInt8 := UInt8.ofNat code

/-- The status that the caller sees of a command line that was carried out, or that a fault
ended. -/
def Conclusion.status (conclusion : Conclusion) : UInt8 :=
  match conclusion.result with
  | .ok code => CommandLine.status code
  | .error _ => 1

end LineScript.CommandLine
