import LineScript.Files.Refusal
import LineScript.Files.Tree
import LineScript.Path

/-!
# Looking up paths
A path is followed name by name from the root or from the working directory. Links on the way are
followed, the last one only when asked for; `..` goes to the directory above in the tree.
-/
namespace LineScript.Files

/-- A tree and the directory that relative paths start from, if it still exists. -/
structure Store where
  tree : Tree
  workdir : Option Location

/-- The place that a path leads to: where it is, and what stands there. -/
structure Place where
  location : Location
  node : Option Node

/-- The names between the slashes of a path. -/
def namesOf (path : String) : List String :=
  ((Path.pieces path.toList).filter (!·.isEmpty)).map String.ofList

/-- The names of a path. A slash at its end asks for a directory, as a last name `.` does. -/
def pathNames (path : String) : List String :=
  let names := namesOf path
  if path.toList.getLast? == some '/' && !names.isEmpty then names ++ ["."] else names

/-- The longest name, in bytes. -/
def maxName : Nat := 255

/-- One more than the longest path, in bytes. -/
def maxPath : Nat := 4096

/-- How many links a path may lead through. -/
def maxLinks : Nat := 40

/-- Follows the names from a directory. -/
def walk (tree : Tree) (follow : Bool) (links : Nat) (here : Location) (names : List String) :
    Except Refusal Place :=
  match names with
  | [] => .ok ⟨here, tree.find? here⟩
  | name :: rest =>
    if name = "." then walk tree follow links here rest
    else if name = ".." then walk tree follow links here.dropLast rest
    else if maxName < name.utf8ByteSize then .error .nameTooLong
    else
      let location := here ++ [name]
      match tree.find? location with
      | none => if rest.isEmpty then .ok ⟨location, none⟩ else .error .noEntry
      | some .directory => walk tree follow links location rest
      | some (.link target) =>
        if rest.isEmpty && !follow then .ok ⟨location, some (.link target)⟩
        else match links with
          | 0 => .error .tooManyLinks
          | links + 1 =>
            let base := if Path.isAbsolute target.toList then [] else here
            walk tree follow links base (pathNames target ++ rest)
      | some node => if rest.isEmpty then .ok ⟨location, some node⟩ else .error .notDirectory
termination_by (links, names.length)

theorem walk_single {tree : Tree} {here : Location} {name : String} {node : Option Node}
    (plain : name ≠ "." ∧ name ≠ ".." ∧ name.utf8ByteSize ≤ maxName)
    (found : tree.find? (here ++ [name]) = node) (unlinked : ∀ target, node ≠ some (.link target))
    (follow : Bool) (links : Nat) :
    walk tree follow links here [name] = .ok ⟨here ++ [name], node⟩ := by
  obtain ⟨own, down, short⟩ := plain
  rw [walk, if_neg own, if_neg down, if_neg (Nat.not_lt.mpr short)]
  simp only [found]
  match node with
  | none => rfl
  | some .directory => rw [walk, found]
  | some (.link target) => exact absurd rfl (unlinked target)
  | some (.file _ _) | some (.program _) | some .sink => rfl

namespace Store

/-- The place that a path leads to; a last link is followed only if `follow` holds. -/
def resolve (store : Store) (follow : Bool) (path : String) : Except Refusal Place :=
  if path.isEmpty then .error .noEntry
  else if maxPath ≤ path.utf8ByteSize then .error .nameTooLong
  else if Path.isAbsolute path.toList then walk store.tree follow maxLinks [] (pathNames path)
  else match store.workdir with
    | none => .error .noEntry
    | some here => walk store.tree follow maxLinks here (pathNames path)

variable (store : Store) (follow : Bool)

theorem resolve_root : store.resolve follow "/" = .ok ⟨[], some .directory⟩ := by
  have names : pathNames "/" = [] := rfl
  rw [resolve, if_neg (by decide), if_neg (by decide), if_pos (by decide), names, walk]
  rfl

/-- A path of one name leads from where it starts to what stands there, unless it is a link. -/
theorem resolve_single {path name : String} {here : Location} {node : Option Node}
    (sized : path.isEmpty = false ∧ path.utf8ByteSize < maxPath)
    (base : (if Path.isAbsolute path.toList then some [] else store.workdir) = some here)
    (names : pathNames path = [name])
    (plain : name ≠ "." ∧ name ≠ ".." ∧ name.utf8ByteSize ≤ maxName)
    (found : store.tree.find? (here ++ [name]) = node)
    (unlinked : ∀ target, node ≠ some (.link target)) :
    store.resolve follow path = .ok ⟨here ++ [name], node⟩ := by
  have led := walk_single plain found unlinked follow maxLinks
  rw [resolve, if_neg (by simp [sized.1]), if_neg (Nat.not_le.mpr sized.2), names]
  split at base
  · cases base
    rw [if_pos ‹_›]
    exact led
  · rw [if_neg ‹_›, base]
    exact led

end Store

end LineScript.Files
