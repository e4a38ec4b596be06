import LineScript.Process
import LineScript.Shell.Running

/-!
# Programs
What the programs of the standard platform do: shells, and some that do one thing only. What a
shell starts is run to its end in turn, up to a depth that no script reaches.
-/
namespace LineScript.Programs
open Process

/-- A running program: the files it sees, where it works, its environment, the name it was started
by and its arguments. -/
structure Running where
  store : Files.Store
  workdir : String
  environ : Environment
  name : String
  arguments : List String

/-- What programs other than shells do. -/
def runPlain (program : String) (running : Running) : Finished :=
  let say (text : String) : Finished := ⟨Text.Utf8.encode text, [], 0⟩
  match program with
  | "false" => ⟨[], [], 1⟩
  | "echo" => say (" ".intercalate running.arguments ++ "\n")
  | "pwd" => say (running.workdir ++ "\n")
  | "env" => say (String.join (running.environ.toEntries.map (· ++ "\n")))
  | "cat" =>
    running.arguments.foldl (fun done name =>
      match running.store.readFile (Path.join running.workdir name) with
      | .ok bytes => { done with stdout := done.stdout ++ bytes }
      | .error refusal =>
        { done with
          stderr := done.stderr ++
            Text.Utf8.encode (running.name ++ ": " ++ name ++ ": " ++ refusal.reason ++ "\n")
          status := 1 }) ⟨[], [], 0⟩
  | _ => ⟨[], [], 0⟩

/-- The script that a shell is asked to run, with its name and arguments: one given as an argument,
or one in a file. -/
def shellScript? (running : Running) : List String → Option (List Char × String × List String)
  | [] => none
  | argument :: rest =>
    if argument.startsWith "-" then
      if argument.toList.contains 'c' then
        match rest with
        | [] => none
        | script :: rest => match rest with
          | [] => some (Shell.ofText script, running.name, [])
          | name :: arguments => some (Shell.ofText script, name, arguments)
      else shellScript? running rest
    else match running.store.readFile (Path.join running.workdir argument) with
      | .ok bytes => some (Shell.ofBytes bytes, argument, rest)
      | .error _ => none

def shellState (running : Running) (name : String) (arguments : List String) : Shell.State where
  store := running.store
  workdir := running.workdir
  bindings := running.environ
  exported := running.environ.names
  name := name
  arguments := arguments.map Shell.ofText
  status := 0
  stdout := []
  stderr := []
  ended := none

/-- What the first line of a script asks to be run by: the path of a program and at most one
argument. -/
def interpreter? (bytes : List UInt8) : Option (String × List String) :=
  match Shell.ofBytes (bytes.take 256) with
  | '#' :: '!' :: rest =>
    let isGap (c : Char) : Bool := c == ' ' || c == '\t'
    let line := Text.dropEndWhile isGap ((rest.takeWhile (· != '\n')).dropWhile isGap)
    let path := line.takeWhile (!isGap ·)
    let argument := (line.drop path.length).dropWhile isGap
    if path.isEmpty then none
    else some (Shell.toText path, if argument.isEmpty then [] else [Shell.toText argument])
  | _ => none

/-- The program that a path leads to, through the first lines of scripts, with its arguments. -/
def load (store : Files.Store) (path : String) (arguments : List String) :
    Nat → Except Files.Refusal (String × String × List String)
  | 0 => .error .tooManyLinks
  | depth + 1 => do
    match ← store.stat path with
    | .program name => pure (name, path, arguments)
    | .file bytes true => match interpreter? bytes with
      | some (interpreter, extra) => load store interpreter (extra ++ path :: arguments) depth
      | none => throw .execFormat
    | _ => throw .denied

/-- The paths to try for a program: one with a slash in it is tried alone. -/
def candidates (environ : Environment) (program : String) : List String :=
  if program.toList.contains '/' then [program]
  else (searchPath ((environ.find? "PATH").getD "/bin:/usr/bin")).map fun directory =>
    Path.join directory program

/-- The first program that can be loaded; if none can, a refusal that tells more than that nothing
was found wins. -/
def loadFirst (store : Files.Store) (arguments : List String) :
    List String → Files.Refusal → Except Files.Refusal (String × String × List String)
  | [], refusal => .error refusal
  | path :: rest, refusal =>
    match load store path arguments 5 with
    | .ok loaded => .ok loaded
    | .error found =>
      let known := refusal != .noEntry && refusal != .notDirectory
      loadFirst store arguments rest (if known then refusal else found)

def run : Nat → Files.Store → Request → Except SystemFault (Files.Store × Finished)
  | 0, _, request => .error (.ofRefusal .noEntry [request.program])
  | depth + 1, store, request => do
    let location ← match store.locate true request.workdir with
      | .ok (location, .directory) => pure location
      | .ok _ => throw (.ofRefusal .notDirectory [request.workdir])
      | .error refusal => throw (.ofRefusal refusal [request.workdir])
    let inside := { store with workdir := some location }
    match loadFirst inside request.arguments (candidates request.environ request.program)
        .noEntry with
    | .error refusal => throw (.ofRefusal refusal [request.program])
    | .ok (program, name, arguments) =>
      let running : Running := ⟨inside, request.workdir, request.environ, name, arguments⟩
      if ["sh", "dash", "bash"].contains program then
        match shellScript? running arguments with
        | none => pure (store, ⟨[], [], 0⟩)
        | some (script, name, arguments) =>
          let launch : Shell.Launch := fun s words =>
            let request : Request := {
              program := Shell.toText (words.headD [])
              arguments := words.tail.map Shell.toText
              workdir := s.workdir
              environ := s.environment }
            match run depth s.store request with
            | .ok (store, finished) =>
              { s with
                store := { store with workdir := s.store.workdir }
                stdout := s.stdout ++ finished.stdout
                stderr := s.stderr ++ finished.stderr
                status := if finished.status < 0 then 128 - finished.status else finished.status }
            | .error _ => { s with status := 127 }
          let (s, status) := Shell.runScript launch script (shellState running name arguments)
          pure ({ s.store with workdir := store.workdir }, ⟨s.stdout, s.stderr, status⟩)
      else pure (store, runPlain program running)

/-- How deep programs may start each other. -/
def maxDepth : Nat := 50

end LineScript.Programs
