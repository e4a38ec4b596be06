/-!
# Paths
Paths are texts with slashes between their names. Joining and normalising work on the text alone:
`..` removes the name before it, whatever that name is in the file tree.
-/
namespace LineScript.Path

/-- Cuts a text at every character that satisfies `p`; there is always at least one piece. -/
def splitAt (p : Char → Bool) : List Char → List (List Char)
  | [] => [[]]
  | c :: rest =>
    if p c then [] :: splitAt p rest
    else match splitAt p rest with
      | [] => [[c]]
      | piece :: pieces => (c :: piece) :: pieces

/-- The pieces of a path between its slashes, some of them empty. -/
def pieces (path : List Char) : List (List Char) := splitAt (· == '/') path

/-- The path begins at the root. -/
def isAbsolute (path : List Char) : Bool := path.head? == some '/'

/-- A path seen from another one: an absolute path stands alone. -/
def joinChars (base path : List Char) : List Char :=
  if isAbsolute path then path
  else if base.isEmpty || base.getLast? == some '/' then base ++ path
  else base ++ '/' :: path

/-- The slashes that a normalised path begins with: two stay two, more become one. -/
def rootSlashes (path : List Char) : List Char :=
  match path with
  | '/' :: '/' :: '/' :: _ => ['/']
  | '/' :: '/' :: _ => ['/', '/']
  | '/' :: _ => ['/']
  | _ => []

/-- Adds one piece to the names kept so far, the last one first. -/
def keep (rooted : Bool) (names : List (List Char)) (piece : List Char) : List (List Char) :=
  if piece = [] ∨ piece = ['.'] then names
  else if piece = ['.', '.'] then
    match names with
    | [] => if rooted then [] else [piece]
    | name :: rest => if name = ['.', '.'] then piece :: names else rest
  else piece :: names

/-- The names of a normalised path, in order. -/
def normalNames (path : List Char) : List (List Char) :=
  ((pieces path).foldl (keep (isAbsolute path)) []).reverse

/-- The path without empty pieces and `.`, and with `..` worked out. -/
def normalizeChars (path : List Char) : List Char :=
  match rootSlashes path ++ ['/'].intercalate (normalNames path) with
  | [] => ['.']
  | normal => normal

/-- The path without empty pieces and `.`; a name before `..` stays. -/
def tidyChars (path : List Char) : List Char :=
  let names := (pieces path).filter fun piece => piece != [] && piece != ['.']
  match rootSlashes path ++ ['/'].intercalate names with
  | [] => ['.']
  | tidy => tidy

/-- A path seen from another one: an absolute path stands alone. -/
def join (base path : String) : String := String.ofList (joinChars base.toList path.toList)

/-- The path without empty pieces and `.`, and with `..` worked out. -/
def normalize (path : String) : String := String.ofList (normalizeChars path.toList)

/-- The path without empty pieces and `.`; a name before `..` stays. -/
def tidy (path : String) : String := String.ofList (tidyChars path.toList)

/-- What stands after the last slash. -/
def lastPiece (path : String) : String :=
  String.ofList (path.toList.reverse.takeWhile (· != '/')).reverse

/-- What stands up to the last slash, without slashes at its end unless it is all slashes. -/
def parent (path : String) : String :=
  let front := (path.toList.reverse.dropWhile (· != '/')).reverse
  if front.all (· == '/') then String.ofList front
  else String.ofList (front.reverse.dropWhile (· == '/')).reverse

/-- Splits a path that begins with a tilde after its first name. -/
def tildeName (path : List Char) : Option (List Char × List Char) :=
  match path with
  | '~' :: rest => some (rest.span (· != '/'))
  | _ => none

/-- A tilde at the front stands for the home of the named user, or of the one who runs the
program when no name follows; a path that names no known user stays as it is. -/
def expandHome (homeOf : List Char → Option (List Char)) (path : List Char) : List Char :=
  match tildeName path with
  | none => path
  | some (name, rest) =>
    match homeOf name with
    | none => path
    | some home =>
      match (home.reverse.dropWhile (· == '/')).reverse ++ rest with
      | [] => ['/']
      | expanded => expanded

end LineScript.Path
