import LineScript.Pattern.Node
import LineScript.Pattern.Flag

/-!
# Reading patterns
A pattern is read token by token: a character, or a backslash with the character after it. The
reader knows one token ahead. It also keeps what has been learned of the pattern so far: its
flags, its groups and the numbers that must turn out to be groups.
-/
namespace LineScript.Pattern

/-- Why a pattern is not compiled: a defect, numbers beyond what is counted or what is a
character, flags that exclude each other, or a number with too many digits. -/
inductive Problem where
  | defect (defect : Defect)
  | repetitionTooLarge
  | codeTooLarge
  | clashingFlags
  | tooManyDigits (digits : Nat)

/-- A token: a character, or a backslash with the character after it. -/
abbrev Token := List Char

/-- What has been read and learned of a pattern. -/
structure Reading where
  pattern : List Char
  next : Option Token
  rest : List Char
  flags : Flags
  /-- The widths of the groups, none for those still open and for the whole pattern. -/
  widths : List (Option Width)
  names : List (String × Nat)
  /-- How many groups there were where the outermost look behind began. -/
  behind : Option Nat
  /-- Numbers of groups that conditions refer to, and where. -/
  conditions : List (Nat × Nat)
  /-- The code point of a character, by the name. -/
  character : String → Option Nat

/-- Reading with the problems it can meet. -/
abbrev Reader := StateT Reading (Except Problem)

namespace Reading

def position (r : Reading) : Nat :=
  r.pattern.length - r.rest.length - (r.next.map List.length).getD 0

/-- How many groups there are, the whole pattern included. -/
def groups (r : Reading) : Nat := r.widths.length

/-- The width of a group that is closed. -/
def closedWidth? (r : Reading) (group : Nat) : Option Width := (r.widths[group]?).join

end Reading

/-- Stops at a flaw that lies `back` characters before the next token. -/
def failBack {α : Type} (flaw : Flaw) (back : Nat) : Reader α := do
  let r ← get
  throw (.defect ⟨r.pattern, flaw, some (r.position - back)⟩)

def failAt {α : Type} (flaw : Flaw) (position : Nat) : Reader α := do
  let r ← get
  throw (.defect ⟨r.pattern, flaw, some position⟩)

/-- Goes on to the next token. A backslash with nothing after it is no token. -/
def advance : Reader Unit := do
  let r ← get
  match r.rest with
  | [] => set { r with next := none }
  | ['\\'] => failAt .escapeAtEnd (r.pattern.length - 1)
  | '\\' :: c :: rest => set { r with next := some ['\\', c], rest := rest }
  | c :: rest => set { r with next := some [c], rest := rest }

def peek : Reader (Option Token) := do return (← get).next

def take : Reader (Option Token) := do
  let token ← peek
  advance
  return token

/-- Takes the next token if it is the given character. -/
def accept (c : Char) : Reader Bool := do
  if (← peek) = some [c] then
    advance
    return true
  else return false

/-- Takes up to `count` tokens that are characters satisfying `p`. -/
def takeWhile (p : Char → Bool) : Nat → Reader (List Char)
  | 0 => return []
  | count + 1 => do
    match ← peek with
    | some [c] =>
      if p c then
        advance
        return c :: (← takeWhile p count)
      else return []
    | _ => return []

/-- Takes tokens up to a terminator, which ends a name; `what` says what the name is of. -/
def takeUntil (terminator : Char) (what : String) (done : List Char) : Nat → Reader String
  | 0 => failBack (.missingName what) 0
  | fuel + 1 => do
    match ← take with
    | none =>
      if done.isEmpty then failBack (.missingName what) 0
      else failBack (.unterminatedName terminator) done.length
    | some token =>
      if token = [terminator] then
        if done.isEmpty then failBack (.missingName what) 1 else return String.ofList done
      else takeUntil terminator what (done ++ token) fuel

/-- A name up to its terminator. -/
def takeName (terminator : Char) (what : String) : Reader String := do
  takeUntil terminator what [] ((← get).rest.length + 2)

end LineScript.Pattern
