import LineScript.Builtin.Looking

/-!
# Commands that change the scene
Commands on the working directory, the environment and the files. Each does its arguments in
order; what was done before a fault stays done.
-/
namespace LineScript.Builtin

/-- A change of the scene that may end in a fault. -/
abbrev Change (α : Type) := Scene → Scene × Except Fault α

def cd (args : List String) (scene : Scene) : Scene × Except Fault Reply :=
  match args with
  | [path] => match scene.changeDirectory path with
    | .ok scene => (scene, .ok .done)
    | .error fault => (scene, .error fault)
  | _ => (scene, .error (.usage .arguments))

/-- Does the arguments of `env` in order: sets variables, and gathers lines on the others. -/
def envLines (lines : List String) : List String → Scene → Scene × Except Fault (List String)
  | [], scene => (scene, .ok lines)
  | arg :: rest, scene =>
    match Environment.splitEntry arg with
    | (name, some value) => match scene.setVariable name value with
      | .ok scene => envLines lines rest scene
      | .error fault => (scene, .error fault)
    | (name, none) =>
      envLines (lines ++ [Environment.printEntry name (scene.env.value name) ++ "\n"]) rest scene

/-- Sets and prints variables; without arguments it prints the whole environment. -/
def env (args : List String) (scene : Scene) : Scene × Except Fault Reply :=
  if args.isEmpty then (scene, .ok (say (String.join (scene.env.toEntries.map (· ++ "\n")))))
  else match envLines [] args scene with
    | (scene, .error fault) => (scene, .error fault)
    | (scene, .ok lines) =>
      (scene, .ok (if lines.isEmpty then .done else say (String.join lines)))

/-- A change of the store that may end in a fault. -/
abbrev StoreChange := Files.Store → Files.Store × Except Fault Unit

/-- A change that is refused as a whole or done. The paths it concerns can hold no NUL. -/
def attempt (paths : List String) (change : Files.Store → Except Files.Refusal Files.Store) :
    StoreChange := fun store =>
  if paths.any Files.Store.hasNul then (store, .error (.value .embeddedNul))
  else match change store with
    | .ok store => (store, .ok ())
    | .error refusal => (store, .error (.refused refusal paths))

/-- Does a change for each name in order, up to the first fault. -/
def forEach (change : String → StoreChange) : List String → StoreChange
  | [], store => (store, .ok ())
  | name :: rest, store =>
    match change name store with
    | (store, .ok ()) => forEach change rest store
    | (store, .error fault) => (store, .error fault)

/-- Does a change at a path that is named from the scene. -/
def atPath (scene : Scene) (change : String → StoreChange) (name : String) : StoreChange :=
  fun store => match scene.resolve name with
    | .ok path => change path store
    | .error fault => (store, .error fault)

/-- The fault says that something stands where a directory was to be made. -/
def isTaken : Fault → Bool
  | .system (.refused number _ _) => number == Files.Refusal.entryExists.number
  | _ => false

/-- Makes a directory, unless it is there. -/
def makeOne (path : String) : StoreChange := fun store =>
  match attempt [path] (·.makeDirectory path) store with
  | (store, .ok ()) => (store, .ok ())
  | (store, .error (.system fault)) =>
    if store.isDirectory path then (store, .ok ()) else (store, .error (.system fault))
  | (store, .error fault) => (store, .error fault)

/-- Makes a directory and those above it, so far as they are missing. -/
def makeWithParents : Nat → String → StoreChange
  | 0, path, store => makeOne path store
  | depth + 1, path, store =>
    let above := Path.parent path
    if !above.isEmpty && !(Path.lastPiece path).isEmpty && !store.pathExists above then
      match makeWithParents depth above store with
      | (store, .ok ()) => makeOne path store
      | (store, .error fault) =>
        if isTaken fault then makeOne path store else (store, .error fault)
    else makeOne path store

def mkdir (args : List String) (scene : Scene) : StoreChange := fun store =>
  if args.isEmpty then (store, .error (.usage .arguments))
  else forEach (atPath scene fun path => makeWithParents path.length path) args store

def mv (args : List String) (scene : Scene) : StoreChange := fun store =>
  match args with
  | [source, target] => match scene.resolve source, scene.resolve target with
    | .ok source, .ok target => attempt [source, target] (·.rename source target) store
    | .error fault, _ => (store, .error fault)
    | _, .error fault => (store, .error fault)
  | _ => (store, .error (.usage .arguments))

/-- Removes what stands at a path; nothing may stand there. -/
def removePath (path : String) : StoreChange := fun store =>
  if store.isDirectory path && !store.isLink path then attempt [path] (·.removeTree path) store
  else if Files.Store.hasNul path then (store, .error (.value .embeddedNul))
  else match store.removeFile path with
    | .ok store => (store, .ok ())
    | .error .noEntry => (store, .ok ())
    | .error refusal => (store, .error (.refused refusal [path]))

def rm (args : List String) (scene : Scene) : StoreChange := fun store =>
  if args.isEmpty then (store, .error (.usage .arguments))
  else forEach (atPath scene removePath) args store

/-- Two paths lead to the same place where something stands. -/
def sameFile (store : Files.Store) (a b : String) : Bool :=
  match store.locate true a, store.locate true b with
  | .ok (a, _), .ok (b, _) => a == b
  | _, _ => false

def copyFile (source target : String) : StoreChange := fun store =>
  if Files.Store.hasNul source || Files.Store.hasNul target then
    (store, .error (.value .embeddedNul))
  else if sameFile store source target then
    (store, .error (.system (.sameFile source target)))
  else match store.readFile source with
    | .error refusal => (store, .error (.refused refusal [source]))
    | .ok bytes => attempt [target] (·.writeFile target bytes) store

/-- Copies one source: a file, or one of the streams of the last output by its name. -/
def copyOne (scene : Scene) (target : String) (intoDirectory : Bool) (source : String) :
    StoreChange := fun store =>
  let target := if intoDirectory then Path.join target (Path.lastPiece source) else target
  let save (text : String) := attempt [target] (·.writeFile target (Text.Utf8.encode text)) store
  if source = "stdout" then save scene.last.stdout
  else if source = "stderr" then save scene.last.stderr
  else atPath scene (copyFile · target) source store

def cp (args : List String) (scene : Scene) : StoreChange := fun store =>
  match args.getLast? with
  | none => (store, .error (.usage .arguments))
  | some last =>
    if args.length < 2 then (store, .error (.usage .arguments))
    else match scene.resolve last with
      | .error fault => (store, .error fault)
      | .ok target =>
        let intoDirectory := store.isDirectory target
        if 2 < args.length && !intoDirectory then
          (store, .error (.failure (.noDestination last)))
        else forEach (copyOne scene target intoDirectory) args.dropLast store

/-- The command that changes the scene. -/
def changing (usage : CommandUsage) (change : List String → Scene → Scene × Except Fault Reply) :
    Command where
  usage := usage
  act := fun args state =>
    let (scene, reply) := change args state.toScene
    ({ state with toScene := scene }, replyOf reply)

/-- The command that changes files only, and hands nothing back. -/
def filing (usage : CommandUsage) (change : List String → Scene → StoreChange) : Command :=
  changing usage fun args scene =>
    let (store, result) := change args scene scene.machine.store
    (scene.withStore store, result.map fun _ => .done)

end LineScript.Builtin
