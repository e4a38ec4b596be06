import LineScript.Diagnostic
import LineScript.Scene
import LineScript.Script.Line
import LineScript.Table

/-!
# Commands and conditions
A command is called with its arguments on a state. It is done at once, or it hands back a handle
that is awaited for its output, or it fails. A handle changes the scene only; a command can change
all of the stage, but not which manual is at hand. A condition is asked whether it holds. An engine
knows commands and conditions by their names.
-/
namespace LineScript

/-- How a command is called, for its users. -/
structure CommandUsage where
  summary : String
  args : String
  detail : List String
  /-- The command may run in the background. -/
  isAsync : Bool
  deriving DecidableEq, Repr

/-- What a condition means, for its users. -/
structure ConditionUsage where
  summary : String
  takesSuffix : Bool
  deriving DecidableEq, Repr

/-- A condition that can gate a command. -/
structure Condition where
  usage : ConditionUsage
  holds : Scene → String → Except Fault Bool

/-- The manual: how the commands are called and what the conditions mean. -/
structure Manual where
  commands : Table CommandUsage
  conditions : Table Condition

/-- What is awaited for the output of a command: a task, or everything in the background. -/
inductive Handle where
  | task (run : Scene → Scene × Except Fault Output)
  | join

/-- A handle whose output is known. -/
def Handle.known (output : Output) : Handle := .task fun scene => (scene, .ok output)

/-- A command in the background: its line, its handle and the outcome that is expected. -/
structure Pending where
  line : String
  handle : Handle
  want : Script.Expect

/-- All that a command can change: the scene, what is in the background, and the notes so far. -/
structure Stage extends Scene where
  background : List Pending
  diagnostics : List Diagnostic

def Stage.note (stage : Stage) (severity : Severity) (origin : Origin) (message : String) : Stage :=
  { stage with diagnostics := stage.diagnostics ++ [⟨severity, origin, message⟩] }

/-- What a script runs against: a stage, and the manual of the engine that runs it, if one does. -/
structure State extends Stage where
  manual : Option Manual

instance : Coe State Stage := ⟨State.toStage⟩

/-- What a command hands back. -/
inductive Reply where
  | done
  | handle (handle : Handle)
  | fault (fault : Fault)

/-- A command: how it is called, what it changes and what it hands back. -/
structure Command where
  usage : CommandUsage
  act : List String → State → Stage × Reply

/-- The state after a command was called, and what it handed back. -/
def Command.run (command : Command) (args : List String) (state : State) : State × Reply :=
  let (stage, reply) := command.act args state
  ({ state with toStage := stage }, reply)

/-- Commands and conditions by their names. -/
structure Engine where
  commands : Table Command
  conditions : Table Condition

/-- The manual of an engine. -/
def Engine.manual (engine : Engine) : Manual where
  commands := engine.commands.map (·.usage)
  conditions := engine.conditions

/-- The state with the manual of the engine at hand. -/
def Engine.attach (engine : Engine) (state : State) : State :=
  { state with manual := some engine.manual }

/-- Names in the order of their code points. -/
def sortedNames (names : List String) : List String :=
  names.mergeSort fun a b => !decide (b < a)

/-- A state in a working directory that is known to be there. -/
def State.start (machine : Machine) (pwd : String) (env : Environment) : State where
  machine := machine
  scopes := Scopes.none.background.child 0
  scope := 1
  pwd := pwd
  env := env.insert "PWD" pwd
  written := .empty
  last := .empty
  jobs := []
  background := []
  diagnostics := []
  manual := none

/-- A fresh state in a working directory, with an environment given by its entries. Its scope has
the number one and was made under the scope with the number zero. -/
def State.create (machine : Machine) (workdir : String) (entries : List String) :
    Except Fault State := do
  let expanded ← machine.expandHome workdir
  match machine.absolute expanded with
  | .error fault => throw (.context (.noWorkdir fault))
  | .ok pwd =>
    if machine.store.isDirectory pwd then
      match Environment.ofEntries entries with
      | .ok env => return .start machine pwd env
      | .error fault => throw (.context fault)
    else throw (.context (.notDirectory pwd))

/-- A state starts in a directory that is there. -/
theorem State.create_of_directory {machine : Machine} {workdir path pwd : String}
    {entries : List String} {env : Environment} (expanded : machine.expandHome workdir = .ok path)
    (absolute : machine.absolute path = .ok pwd) (there : machine.store.isDirectory pwd = true)
    (read : Environment.ofEntries entries = .ok env) :
    State.create machine workdir entries = .ok (.start machine pwd env) := by
  simp only [create, expanded, bind, Except.bind, absolute, there, read]
  rfl

theorem State.create_root (machine : Machine) {entries : List String} {env : Environment}
    (read : Environment.ofEntries entries = .ok env) :
    State.create machine "/" entries = .ok (.start machine "/" env) :=
  create_of_directory rfl rfl machine.store.isDirectory_root read

end LineScript
