import LineScript.Shell.Builtin

/-!
# Running shell scripts
A script is run with an amount of fuel, which goes down at every nested command and every turn of
a loop. Programs other than the shell's own commands are started by a function that is given.
-/
namespace LineScript.Shell

/-- Starts a program: from its path, arguments and the state of the shell that starts it to the new
store, what it wrote, and its status. -/
abbrev Launch := State → List (List Char) → State

/-- Where a stream goes. -/
inductive Sink where
  | stdout
  | stderr
  | file (path : String)
  deriving DecidableEq, Repr

/-- Where standard output and standard error go. -/
structure Sinks where
  stdout : Sink
  stderr : Sink

/-- The state and sinks after one redirection, if it can be done. -/
def redirect (s : State) (sinks : Sinks) (r : Redirection) : Option (State × Sinks) :=
  let target := toText (s.text r.target)
  let path := Path.join s.workdir target
  let send (s : State) (sink : Sink) : Option (State × Sinks) :=
    if r.number = 1 then some (s, { sinks with stdout := sink })
    else if r.number = 2 then some (s, { sinks with stderr := sink })
    else some (s, sinks)
  match r.stream with
  | .read => if s.store.pathExists path then some (s, sinks) else none
  | .copy =>
    if target = "1" then send s sinks.stdout
    else if target = "2" then send s sinks.stderr
    else some (s, sinks)
  | .write =>
    match s.store.writeFile path [] with
    | .ok store => send { s with store := store } (.file path)
    | .error _ => none
  | .append =>
    match s.store.appendFile path [] with
    | .ok store => send { s with store := store } (.file path)
    | .error _ => none

def redirectAll (s : State) (sinks : Sinks) : List Redirection → Option (State × Sinks)
  | [] => some (s, sinks)
  | r :: rest => match redirect s sinks r with
    | some (s, sinks) => redirectAll s sinks rest
    | none => none

/-- Sends bytes where a stream goes. -/
def send (s : State) (sink : Sink) (bytes : List UInt8) : State :=
  match sink with
  | .stdout => { s with stdout := s.stdout ++ bytes }
  | .stderr => { s with stderr := s.stderr ++ bytes }
  | .file path => match s.store.appendFile path bytes with
    | .ok store => { s with store := store }
    | .error _ => s

/-- Starts a program; `intro` begins what is said when it cannot be found. -/
def runProgram (launch : Launch) (intro : String) (s : State) (words : List (List Char)) : State :=
  let after := launch s words
  if after.status = 127 && after.stderr.length = s.stderr.length then
    after.warn (ofText (s.name ++ ": " ++ intro) ++ words.headD [] ++ ofText ": not found\n")
  else after

/-- Runs a command whose words are known. A program that takes the place of the script ends it. -/
def runWords (launch : Launch) (line : Nat) (s : State) (words : List (List Char)) : State :=
  let intro := toString line ++ ": "
  match words with
  | [] => s.done 0
  | name :: args =>
    if toText name = "exec" then
      if args.isEmpty then s.done 0
      else
        let after := runProgram launch (intro ++ "exec: ") s args
        { after with ended := some after.status }
    else match builtin? (toText name) with
      | some run => run s args
      | none => runProgram launch intro s words

def runSimple (launch : Launch) (line : Nat) (assignments : List (String × Word))
    (words : List Word) (redirections : List Redirection) (s : State) : State :=
  let fields := words.flatMap s.fields
  let assigned := assignments.foldl (fun s entry => s.assign entry.1 (s.text entry.2)) s
  match redirectAll assigned ⟨.stdout, .stderr⟩ redirections with
  | none =>
    (s.warn (ofText (s.name ++ ": " ++ toString line ++ ": cannot open redirection\n"))).done 2
  | some (opened, sinks) =>
    let after := runWords launch line { opened with stdout := [], stderr := [] } fields
    let written := { after with stdout := opened.stdout, stderr := opened.stderr }
    send (send written sinks.stdout after.stdout) sinks.stderr after.stderr

def run (launch : Launch) : Nat → Command → State → State
  | 0, _, s => { s with ended := some 2 }
  | fuel + 1, command, s =>
    if s.ended.isSome then s
    else match command with
      | .nothing => s
      | .simple line assignments words redirections =>
        runSimple launch line assignments words redirections s
      | .list first second => run launch fuel second (run launch fuel first s)
      | .both first second =>
        let s := run launch fuel first s
        if s.status = 0 then run launch fuel second s else s
      | .either first second =>
        let s := run launch fuel first s
        if s.status = 0 then s else run launch fuel second s
      | .negated inner =>
        let s := run launch fuel inner s
        s.done (if s.status = 0 then 1 else 0)
      | .choice test yes no =>
        let s := run launch fuel test s
        if s.status = 0 then run launch fuel yes (s.done 0) else run launch fuel no (s.done 0)
      | .loop expected test body =>
        let s := run launch fuel test s
        if s.ended.isNone && (s.status = 0) = expected then
          run launch fuel (.loop expected test body) (run launch fuel body s)
        else s.done 0
      | .each name words body =>
        let fields := match words with
          | some words => words.flatMap s.fields
          | none => s.arguments
        fields.foldl (fun s field =>
          if s.ended.isSome then s else run launch fuel body (s.assign name field)) s

/-- How long a script may run. -/
def patience : Nat := 10000

/-- Runs a script to its end, which is its status or the negated number of a signal. -/
def runScript (launch : Launch) (script : List Char) (s : State) : State × Int :=
  match readScript script with
  | .error complaint =>
    (s.warn (ofText (s.name ++ ": " ++ toString complaint.line ++ ": " ++ complaint.message ++
      "\n")), 2)
  | .ok command =>
    let s := run launch patience command s
    (s, s.ended.getD s.status)

end LineScript.Shell
