import LineScript.Builtin.Changing

/-!
# Commands that run programs
A program is looked up when the command is called and asked for; it is started when the script
first waits, and its output is handed over when the handle is awaited.
-/
namespace LineScript.Builtin

/-- Finds the program of a command. A name with a slash is a path from the working directory. -/
def findProgram (scene : Scene) (name : String) : Except Fault String := do
  let store := scene.machine.store
  if name.toList.contains '/' then
    let path ← scene.resolve name
    if store.isFile path && store.isExecutable path then return path
    else throw (.failure (.notExecutableFile name))
  else match Process.find? store (scene.env.value "PATH") name with
    | some path => return path
    | none => throw (.failure (.programNotFound name))

/-- The output of a program that has ended, or its failure. -/
def programOutput : Except Fault Process.Finished → Except Fault Output
  | .error fault => .error fault.asFailure
  | .ok finished =>
    let output : Output := ⟨Text.Utf8.decode finished.stdout, Text.Utf8.decode finished.stderr⟩
    if finished.status = 0 then .ok output
    else .error (.command (.exitStatus finished.status) output)

def awaitJob (number : Nat) (scene : Scene) : Scene × Except Fault Output :=
  match scene.jobs[number]? with
  | some (.finished result) => (scene, programOutput result)
  | _ =>
    let scene := scene.pause
    match scene.jobs[number]? with
    | some (.finished result) => (scene, programOutput result)
    | _ => (scene, .ok .empty)

def exec (args : List String) (scene : Scene) : Scene × Except Fault Reply :=
  match args with
  | [] => (scene, .error (.usage .arguments))
  | name :: args => match findProgram scene name with
    | .error fault => (scene, .error fault)
    | .ok program =>
      let (scene, number) := scene.ask program args
      (scene, .ok (.handle (.task (awaitJob number))))

/-- The pieces of an argument between its spaces and tabs, stripped, without empty ones. -/
def argumentPieces (arg : String) : List String :=
  ((Path.splitAt Script.isSeparator arg.toList).map Text.stripChars).filterMap fun piece =>
    if piece.isEmpty then none else some (String.ofList piece)

/-- Splits arguments into their pieces. -/
def expandArguments (args : List String) : Except UsageFault (List String) :=
  if args.isEmpty then .error .arguments else .ok (args.flatMap argumentPieces)

/-- Arguments as notes show them. -/
def showArguments (args : List String) : String :=
  "[" ++ ", ".intercalate (args.map Text.quoted) ++ "]"

/-- The command under a name that splits its arguments and then runs another command. -/
def expanding (name : String) (inner : Command) : Command where
  usage := {
    summary := "run an executable program with arguments"
    args := "program [args...]"
    detail := [
      "Note that '" ++ name ++ "' does not terminate the script (unlike Unix shells).",
      "Unlike 'exec', arguments with spaces will be expanded into separate arguments."]
    isAsync := true }
  act := fun args state =>
    match expandArguments args with
    | .error fault => (state, .fault (.usage fault))
    | .ok expanded =>
      let message := name ++ ": expanded " ++ showArguments args ++ " -> " ++
        showArguments expanded
      inner.act expanded { state with toStage := state.toStage.note .debug .extensions message }

end LineScript.Builtin
