import LineScript.Machine
import LineScript.Process
import LineScript.Scopes

/-!
# Scenes
A scene is where commands take place: the machine, the working directory, the environment, what has
been written so far, and the programs that have been asked for. A program is started when the script
first waits for something after asking for it.
-/
namespace LineScript

/-- A program that has been asked for: not yet started, or run to its end. -/
inductive Job where
  | waiting (program : String) (arguments : List String)
  | finished (result : Except Fault Process.Finished)

/-- Where commands take place. -/
structure Scene where
  machine : Machine
  scopes : Scopes
  /-- The scope that the script runs in. -/
  scope : Nat
  pwd : String
  env : Environment
  /-- All that has been recorded. -/
  written : Output
  /-- What was recorded last. -/
  last : Output
  jobs : List Job

def Output.append (first second : Output) : Output :=
  ⟨first.stdout ++ second.stdout, first.stderr ++ second.stderr⟩

namespace Output

theorem empty_append (output : Output) : empty.append output = output := by
  simp [append, empty]

theorem append_empty (output : Output) : output.append empty = output := by
  simp [append, empty]

theorem append_assoc (first second third : Output) :
    (first.append second).append third = first.append (second.append third) := by
  simp [append, String.append_assoc]

end Output

namespace Scene

def isCanceled (scene : Scene) : Bool := scene.scopes.isCanceled scene.scope

/-- A path as seen from the working directory, normalised, with its tilde replaced. -/
def resolve (scene : Scene) (path : String) : Except Fault String := do
  let expanded ← scene.machine.expandHome path
  return Path.normalize (Path.join scene.pwd expanded)

theorem resolve_untilded {scene : Scene} {pwd path : String} (here : scene.pwd = pwd)
    (untilded : Path.tildeName path.toList = none) :
    scene.resolve path = .ok (Path.normalize (Path.join pwd path)) := by
  simp only [resolve, Machine.expandHome, untilded, here]
  rfl

/-- Moves to a directory that is known to be there. -/
def enter (scene : Scene) (directory : String) : Scene :=
  { scene with pwd := directory, env := scene.env.insert "PWD" directory }

/-- Changes the working directory. -/
def changeDirectory (scene : Scene) (path : String) : Except Fault Scene := do
  let directory ← scene.resolve path
  if scene.machine.store.isDirectory directory then return scene.enter directory
  else throw (.failure (.notDirectory path))

def setVariable (scene : Scene) (name value : String) : Except Fault Scene :=
  match scene.env.set name value with
  | .ok env => .ok { scene with env := env }
  | .error failure => .error (.failure failure)

/-- Records output: it becomes the last output and is added to all that was written. -/
def record (scene : Scene) (output : Output) : Scene :=
  { scene with written := scene.written.append output, last := output }

def withStore (scene : Scene) (store : Files.Store) : Scene :=
  { scene with machine := { scene.machine with store := store } }

/-- Runs a job that is still waiting, in the working directory and environment of now. -/
def startJob (scene : Scene) (store : Files.Store) : Job → Files.Store × Job
  | .waiting program arguments =>
    match Process.start scene.machine.platform.run store
        ⟨program, arguments, scene.pwd, scene.env⟩ with
    | .ok (store, finished) => (store, .finished (.ok finished))
    | .error fault => (store, .finished (.error fault))
  | .finished result => (store, .finished result)

def startAll (scene : Scene) (store : Files.Store) : List Job → Files.Store × List Job
  | [] => (store, [])
  | job :: rest =>
    let (store, job) := scene.startJob store job
    let (store, rest) := scene.startAll store rest
    (store, job :: rest)

/-- Waits: every job that is waiting is run. -/
def pause (scene : Scene) : Scene :=
  let (store, jobs) := scene.startAll scene.machine.store scene.jobs
  { scene.withStore store with jobs := jobs }

/-- Asks for a program, and gives the number of the job. -/
def ask (scene : Scene) (program : String) (arguments : List String) : Scene × Nat :=
  ({ scene with jobs := scene.jobs ++ [.waiting program arguments] }, scene.jobs.length)

end Scene

end LineScript
