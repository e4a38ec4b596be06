import LineScript.Files.Access

/-!
# Changing files
Each change either is refused, and then nothing has changed, or gives the new store.
-/
namespace LineScript.Files.Store

/-- Writes a file anew, through links; a new file gets no mark to be run, an old one keeps its. -/
def writeFile (store : Store) (path : String) (bytes : List UInt8) : Except Refusal Store := do
  let place ← store.resolve true path
  match place.node with
  | none => pure { store with tree := store.tree.insert place.location (.file bytes false) }
  | some (.file _ executable) =>
    pure { store with tree := store.tree.insert place.location (.file bytes executable) }
  | some .directory => throw .isDirectory
  | some (.link _) => throw .tooManyLinks
  | some (.program _) => throw .programBusy
  | some .sink => pure store

/-- Adds bytes at the end of a file, through links. -/
def appendFile (store : Store) (path : String) (bytes : List UInt8) : Except Refusal Store := do
  let place ← store.resolve true path
  match place.node with
  | some (.file old _) => store.writeFile path (old ++ bytes)
  | _ => store.writeFile path bytes

def makeDirectory (store : Store) (path : String) : Except Refusal Store := do
  let place ← store.resolve false path
  match place.node with
  | some _ => throw .entryExists
  | none => pure { store with tree := store.tree.insert place.location .directory }

/-- Removes a file or a link, not what a link leads to. -/
def removeFile (store : Store) (path : String) : Except Refusal Store := do
  let (location, node) ← store.locate false path
  match node with
  | .directory => throw .isDirectory
  | _ => pure { store with tree := store.tree.erase location }

/-- Removes a directory with everything in it; a working directory inside it is gone, too. -/
def removeTree (store : Store) (path : String) : Except Refusal Store := do
  let (location, node) ← store.locate false path
  match node with
  | .directory =>
    if location.isEmpty then throw .busy
    else pure {
      tree := store.tree.prune location
      workdir := store.workdir.filter fun here => !location.isPrefixOf here }
  | _ => throw .notDirectory

/-- Where a working directory is after a move. -/
def movedWorkdir (source target : Location) (workdir : Option Location) : Option Location :=
  workdir.bind fun here =>
    if source.isPrefixOf here then some (target ++ here.drop source.length)
    else if target.isPrefixOf here then none
    else some here

/-- Gives what stands at one path the other path, in place of what stood there. A directory only
replaces an empty directory, and nothing is moved into itself. -/
def rename (store : Store) (source target : String) : Except Refusal Store := do
  let old ← store.resolve false source
  let new ← store.resolve false target
  match old.node with
  | none => throw .noEntry
  | some node =>
    if old.location.isEmpty || new.location.isEmpty then throw .busy
    else if old.location = new.location then pure store
    else if old.location.isPrefixOf new.location then throw .invalid
    else if new.location.isPrefixOf old.location then throw .notEmpty
    else
      match new.node with
      | some there =>
        if node.isDirectory && !there.isDirectory then throw .notDirectory
        else if !node.isDirectory && there.isDirectory then throw .isDirectory
        else if !(store.tree.below new.location).isEmpty then throw .notEmpty
      | none => pure ()
      pure {
        tree := store.tree.move old.location new.location
        workdir := movedWorkdir old.location new.location store.workdir }

end LineScript.Files.Store
