import LineScript.Environment
import LineScript.Files.Change
import LineScript.Path
import LineScript.Platform

/-!
# Machines
What the program runs on: its files, its own environment, the user it runs as, and the platform.
-/
namespace LineScript

/-- What the program runs on. -/
structure Machine where
  store : Files.Store
  environ : Environment
  user : Nat
  [platform : Platform]

namespace Machine

def empty : Machine where
  store := ⟨⟨[]⟩, none⟩
  environ := .empty
  user := 0
  platform := .empty

/-- The home of a user; without a name, that of the one who runs the program, who can choose it
by the environment. -/
def homeOf (machine : Machine) (name : List Char) : Option (List Char) :=
  let home := if name.isEmpty then (machine.environ.find? "HOME").or machine.platform.users.own
    else machine.platform.users.homeOf (String.ofList name)
  home.map String.toList

/-- A path with a tilde at its front replaced by a home. A user's name cannot hold a NUL. -/
def expandHome (machine : Machine) (path : String) : Except Fault String :=
  match Path.tildeName path.toList with
  | none => .ok path
  | some (name, _) =>
    if name.contains '\x00' then .error (.value .embeddedNul)
    else .ok (String.ofList (Path.expandHome machine.homeOf path.toList))

/-- The working directory of the program, if it still exists. -/
def workdir? (machine : Machine) : Option String :=
  machine.store.workdir.map fun location => "/" ++ "/".intercalate location

/-- A path as seen from the working directory of the program, normalised. -/
def absolute (machine : Machine) (path : String) : Except SystemFault String :=
  if Path.isAbsolute path.toList then .ok (Path.normalize path)
  else match machine.workdir? with
    | some workdir => .ok (Path.normalize (Path.join workdir path))
    | none => .error (.ofRefusal .noEntry [])

end Machine

end LineScript
