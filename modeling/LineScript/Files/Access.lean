import LineScript.Files.Resolve

/-!
# Looking at files
What stands at a path, and the bytes of files. The one who runs the programs may read and write
everything; only a file needs a mark to be run.
-/
namespace LineScript.Files.Store

variable {store : Store} {path : String} {place : Place}

/-- What stands at a path, and where. -/
def locate (store : Store) (follow : Bool) (path : String) : Except Refusal (Location × Node) := do
  let place ← store.resolve follow path
  match place.node with
  | some node => pure (place.location, node)
  | none => throw .noEntry

/-- What stands at a path, links followed. -/
def stat (store : Store) (path : String) : Except Refusal Node :=
  (store.locate true path).map (·.2)

theorem stat_of_resolve {node : Node} (resolved : store.resolve true path = .ok place)
    (stands : place.node = some node) : store.stat path = .ok node := by
  simp [stat, locate, resolved, stands, bind, Except.bind, pure, Except.pure, Except.map]

theorem stat_of_resolve_none (resolved : store.resolve true path = .ok place)
    (vacant : place.node = none) : store.stat path = .error .noEntry := by
  simp [stat, locate, resolved, vacant, bind, Except.bind, throw, throwThe, MonadExceptOf.throw,
    Except.map]

/-- A path holds a NUL, which no name can. -/
def hasNul (path : String) : Bool := path.toList.contains '\x00'

/-- What stands at a path, links followed, if the path can be looked up at all. -/
def stat? (store : Store) (path : String) : Option Node :=
  if hasNul path then none else (store.stat path).toOption

/-- What stands at a path, a last link not followed, if the path can be looked up at all. -/
def lstat? (store : Store) (path : String) : Option Node :=
  if hasNul path then none else ((store.locate false path).map (·.2)).toOption

theorem lstat?_of_resolve (whole : hasNul path = false)
    (resolved : store.resolve false path = .ok place) : store.lstat? path = place.node := by
  rw [lstat?, if_neg (by simp [whole]), locate, resolved]
  obtain ⟨location, _ | node⟩ := place <;> rfl

/-- Something stands at the path, links followed. -/
def pathExists (store : Store) (path : String) : Bool := (store.stat? path).isSome

/-- A directory stands at the path, links followed. -/
def isDirectory (store : Store) (path : String) : Bool :=
  (store.stat? path).any Node.isDirectory

theorem isDirectory_of_resolve (whole : hasNul path = false)
    (resolved : store.resolve true path = .ok place) (stands : place.node = some .directory) :
    store.isDirectory path = true := by
  rw [isDirectory, stat?, if_neg (by simp [whole]), stat_of_resolve resolved stands]
  rfl

theorem isDirectory_root (store : Store) : store.isDirectory "/" = true :=
  isDirectory_of_resolve (by decide) (store.resolve_root true) rfl

def isFile (store : Store) (path : String) : Bool := (store.stat? path).any Node.isFile

def isLink (store : Store) (path : String) : Bool :=
  match store.lstat? path with
  | some (.link _) => true
  | _ => false

/-- What stands at the path may be run, or entered if it is a directory. -/
def isExecutable (store : Store) (path : String) : Bool :=
  (store.stat? path).any Node.isExecutable

def readFile (store : Store) (path : String) : Except Refusal (List UInt8) := do
  match ← store.stat path with
  | .directory => throw .isDirectory
  | .file bytes _ => pure bytes
  | .link _ => throw .tooManyLinks
  | .program _ => pure []
  | .sink => pure []

theorem readFile_of_resolve {bytes : List UInt8} {executable : Bool}
    (resolved : store.resolve true path = .ok place)
    (stands : place.node = some (.file bytes executable)) : store.readFile path = .ok bytes := by
  rw [readFile, stat_of_resolve resolved stands]
  rfl

theorem readFile_of_resolve_none (resolved : store.resolve true path = .ok place)
    (vacant : place.node = none) : store.readFile path = .error .noEntry := by
  rw [readFile, stat_of_resolve_none resolved vacant]
  rfl

end LineScript.Files.Store
