/-!
# File trees
A tree says what stands at each location. A location is the list of names on the way down from
the root, none of them a link; the root is always a directory.
-/
namespace LineScript.Files

/-- A location: the names on the way down from the root. -/
abbrev Location := List String

/-- What can stand at a location. -/
inductive Node where
  | directory
  | file (bytes : List UInt8) (executable : Bool)
  | link (target : String)
  /-- A compiled program, known by its name. -/
  | program (name : String)
  /-- A device that takes everything and gives nothing. -/
  | sink
  deriving DecidableEq, Repr

def Node.isDirectory : Node → Bool
  | .directory => true
  | _ => false

/-- The node is a file that holds bytes or a program. -/
def Node.isFile : Node → Bool
  | .file _ _ => true
  | .program _ => true
  | _ => false

/-- The node may be run, or entered if it is a directory. -/
def Node.isExecutable : Node → Bool
  | .directory => true
  | .file _ executable => executable
  | .program _ => true
  | .link _ => false
  | .sink => false

/-- What stands where; the first entry for a location counts. -/
structure Tree where
  entries : List (Location × Node)

namespace Tree

/-- What stands at a location. -/
def find? (tree : Tree) (location : Location) : Option Node :=
  if location.isEmpty then some .directory else tree.entries.lookup location

def erase (tree : Tree) (location : Location) : Tree :=
  ⟨tree.entries.filter (·.1 != location)⟩

def insert (tree : Tree) (location : Location) (node : Node) : Tree :=
  ⟨(location, node) :: (tree.erase location).entries⟩

/-- Everything but what stands at a location and below it. -/
def prune (tree : Tree) (location : Location) : Tree :=
  ⟨tree.entries.filter fun entry => !location.isPrefixOf entry.1⟩

def below (tree : Tree) (location : Location) : List (Location × Node) :=
  tree.entries.filter fun entry => location.isPrefixOf entry.1 && entry.1 != location

/-- Moves what stands at a location and below it, over what stood at the other one. -/
def move (tree : Tree) (source target : Location) : Tree :=
  ⟨((tree.prune target).entries).map fun entry =>
    if source.isPrefixOf entry.1 then (target ++ entry.1.drop source.length, entry.2) else entry⟩

theorem find?_insert (tree : Tree) {location : Location} (node : Node) (h : location ≠ []) :
    (tree.insert location node).find? location = some node := by
  cases location with
  | nil => exact absurd rfl h
  | cons name names => simp [find?, insert]

end Tree

end LineScript.Files
