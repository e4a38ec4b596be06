import LineScript.Listing
import LineScript.Numeral.Duration
import LineScript.Text.Lines

/-!
# Commands that only look
Commands that leave the state as it is: what they do is in what they hand back.
-/
namespace LineScript.Builtin

/-- What a computation that may fail hands back. -/
def replyOf : Except Fault Reply → Reply
  | .ok reply => reply
  | .error fault => .fault fault

/-- Hands back output that is known. -/
def say (text : String) : Reply := .handle (.known ⟨text, ""⟩)

/-- The text of a file: bytes that form no character are replaced, and line ends unified. -/
def readText (scene : Scene) (name : String) : Except Fault String := do
  let path ← scene.resolve name
  if Files.Store.hasNul path then throw (.value .embeddedNul)
  else match scene.machine.store.readFile path with
    | .ok bytes => return String.ofList (Text.unifyLineEnds (Text.Utf8.decodeChars bytes))
    | .error refusal => throw (.refused refusal [path])

def cat (args : List String) (state : State) : Except Fault Reply := do
  if args.isEmpty then throw (.usage .arguments)
  else return say (String.join (← args.mapM (readText state.toScene)))

def echo (args : List String) (_ : State) : Except Fault Reply :=
  return say (" ".intercalate args ++ "\n")

def pwd (args : List String) (state : State) : Except Fault Reply :=
  if args.isEmpty then return say (state.pwd ++ "\n") else throw (.usage .arguments)

/-- What a check of files asks for. -/
structure Demands where
  readonly : Bool
  executable : Bool

/-- The demands in front of the names of files. -/
def takeDemands (demands : Demands) : List String → Demands × List String
  | [] => (demands, [])
  | arg :: rest =>
    if arg = "-readonly" then takeDemands { demands with readonly := true } rest
    else if arg = "-exec" then takeDemands { demands with executable := true } rest
    else (demands, arg :: rest)

/-- Checks one file. What exists can be written by the one who runs the program. -/
def checkFile (scene : Scene) (demands : Demands) (name : String) : Except Fault Unit := do
  let path ← scene.resolve name
  let store := scene.machine.store
  if (store.lstat? path).isNone then throw (.failure (.doesNotExist name))
  else if demands.readonly && store.pathExists path then throw (.failure (.isWritable name))
  else if demands.executable && !store.isExecutable path then
    throw (.failure (.isNotExecutable name))

def exists? (args : List String) (state : State) : Except Fault Reply := do
  let (demands, names) := takeDemands ⟨false, false⟩ args
  if names.isEmpty then throw (.usage .arguments)
  else
    names.forM (checkFile state.toScene demands)
    return .done

def help (args : List String) (state : State) : Except Fault Reply := do
  match state.manual with
  | none => throw (.failure .noEngine)
  | some manual =>
    return say (← manual.help state.toScene (args.contains "-v") (args.filter (· != "-v")))

/-- The duration that a text writes. -/
def parseDuration (text : String) : Except UsageFault Numeral.Duration :=
  match Numeral.Duration.read? text with
  | some duration => .ok duration
  | none => .error (.invalidDuration text)

def sleep (args : List String) (_ : State) : Except Fault Reply :=
  match args with
  | [text] => match parseDuration text with
    | .ok _ => return .handle (.task fun scene => (scene.pause, .ok .empty))
    | .error fault => throw (.usage fault)
  | _ => throw (.usage .arguments)

def stop (args : List String) (_ : State) : Except Fault Reply :=
  throw (.stop (" ".intercalate args))

def wait (args : List String) (_ : State) : Except Fault Reply :=
  if args.isEmpty then return .handle .join else throw (.usage .arguments)

/-- The command that only looks at the state. -/
def looking (usage : CommandUsage) (look : List String → State → Except Fault Reply) :
    Command where
  usage := usage
  act := fun args state => (state, replyOf (look args state))

end LineScript.Builtin
