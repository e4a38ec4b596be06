/-!
# Shell scripts
The commands of a shell script and how they are read: simple commands with quoted words,
parameters and redirections, joined in lists, with choices and loops. A script is a list of bytes,
each held as the character with its number.
-/
namespace LineScript.Shell

/-- What a dollar sign refers to. -/
inductive Parameter where
  | variable (name : String)
  | argument (number : Nat)
  | arguments
  | joined
  | count
  | status
  | process
  deriving DecidableEq, Repr

/-- How the value of a parameter is taken: with text in place of a missing or an empty value, as
text that stands only for a value that is there, or as its length. -/
inductive Taking where
  | orElse (fallback : List Char)
  | instead (chars : List Char)
  | length
  deriving DecidableEq, Repr

/-- A part of a word: text, or a parameter and how its value is taken. -/
inductive Piece where
  | text (quoted : Bool) (chars : List Char)
  | parameter (quoted : Bool) (parameter : Parameter) (taking : Taking)
  deriving DecidableEq, Repr

/-- What a value is taken as. -/
def Taking.apply (taking : Taking) (value : List Char) : List Char :=
  match taking with
  | .orElse fallback => if value.isEmpty then fallback else value
  | .instead chars => if value.isEmpty then [] else chars
  | .length => (toString value.length).toList

/-- A word before its parameters are replaced. -/
abbrev Word := List Piece

/-- What a redirection does to a stream. -/
inductive Stream where
  | write
  | append
  | read
  | copy
  deriving DecidableEq, Repr

/-- A redirection of a stream by its number. -/
structure Redirection where
  number : Nat
  stream : Stream
  target : Word
  deriving DecidableEq, Repr

inductive Command where
  | nothing
  /-- Assignments, words and redirections, with the line where they stand. -/
  | simple (line : Nat) (assignments : List (String × Word)) (words : List Word)
      (redirections : List Redirection)
  | list (first second : Command)
  | both (first second : Command)
  | either (first second : Command)
  | negated (inner : Command)
  | choice (test yes no : Command)
  | loop (expected : Bool) (test body : Command)
  | each (name : String) (words : Option (List Word)) (body : Command)

/-- Why a script cannot be read, in words, and where. -/
structure Complaint where
  line : Nat
  message : String
  deriving DecidableEq, Repr

/-- What is left of a script, and the number of its first line. -/
structure Remainder where
  chars : List Char
  line : Nat

/-- Reading with complaints. -/
abbrev Reader := StateT Remainder (Except Complaint)

def complain {α : Type} (message : String) : Reader α := do
  throw ⟨(← get).line, "Syntax error: " ++ message⟩

def left : Reader (List Char) := do return (← get).chars

/-- Goes on with what is left after `count` characters. -/
def skip (count : Nat) : Reader Unit :=
  modify fun r => ⟨r.chars.drop count, r.line + (r.chars.take count).count '\n'⟩

/-- A character that ends a word. -/
def endsWord (c : Char) : Bool := " \t\n;&|<>()".toList.contains c

def isNamePart (c : Char) : Bool := c.isAlphanum || c == '_'

/-- A name that can be assigned to. -/
def isName (name : List Char) : Bool :=
  match name with
  | [] => false
  | c :: _ => !c.isDigit && name.all isNamePart

def skipBlanks : Nat → Reader Unit
  | 0 => return
  | fuel + 1 => do
    match ← left with
    | ' ' :: _ => skip 1; skipBlanks fuel
    | '\t' :: _ => skip 1; skipBlanks fuel
    | '\\' :: '\n' :: _ => skip 2; skipBlanks fuel
    | _ => return

/-- Skips blanks, and a comment up to the end of the line. -/
def skipToCommand (fuel : Nat) : Reader Unit := do
  skipBlanks fuel
  match ← left with
  | '#' :: rest => skip (rest.takeWhile (· != '\n')).length.succ
  | _ => return

/-- Skips blanks, comments and line ends. -/
def skipLines : Nat → Reader Unit
  | 0 => return
  | fuel + 1 => do
    skipToCommand fuel
    match ← left with
    | '\n' :: _ => skip 1; skipLines fuel
    | _ => return

/-- The parameter that a name or sign refers to. -/
def Parameter.ofName (name : List Char) : Parameter :=
  match name with
  | ['@'] => .arguments
  | ['*'] => .joined
  | ['#'] => .count
  | ['?'] => .status
  | ['$'] => .process
  | _ =>
    if name.all Char.isDigit then .argument ((String.ofList name).toNat?.getD 0)
    else .variable (String.ofList name)

/-- The parameter after a dollar sign that has been taken; without one the sign is text. -/
def readParameter (quoted : Bool) : Reader Piece := do
  match ← left with
  | '{' :: rest =>
    let body := rest.takeWhile (· != '}')
    if body.length = rest.length then complain "Missing '\x7d'"
    skip (body.length + 2)
    match body with
    | '#' :: c :: name => return .parameter quoted (.ofName (c :: name)) .length
    | _ =>
      let name := body.takeWhile fun c => isNamePart c || "@*#?$".toList.contains c
      match (body.drop name.length).dropWhile (· == ':') with
      | '-' :: fallback => return .parameter quoted (.ofName name) (.orElse fallback)
      | '+' :: chars => return .parameter quoted (.ofName name) (.instead chars)
      | _ => return .parameter quoted (.ofName name) (.orElse [])
  | c :: rest =>
    if "@*#?$".toList.contains c || c.isDigit then
      skip 1
      return .parameter quoted (.ofName [c]) (.orElse [])
    else if isNamePart c then
      let name := c :: rest.takeWhile isNamePart
      skip name.length
      return .parameter quoted (.ofName name) (.orElse [])
    else return .text quoted ['$']
  | [] => return .text quoted ['$']

/-- The parts between double quotes, the first of which has been taken. -/
def readQuoted (done : Word) : Nat → Reader Word
  | 0 => complain "Unterminated quoted string"
  | fuel + 1 => do
    match ← left with
    | [] => complain "Unterminated quoted string"
    | '"' :: _ =>
      skip 1
      return done
    | '$' :: _ =>
      skip 1
      readQuoted (done ++ [← readParameter true]) fuel
    | '\\' :: '\n' :: _ => skip 2; readQuoted done fuel
    | '\\' :: c :: _ =>
      skip 2
      let chars := if "$\\\"`".toList.contains c then [c] else ['\\', c]
      readQuoted (done ++ [.text true chars]) fuel
    | c :: _ =>
      skip 1
      readQuoted (done ++ [.text true [c]]) fuel

/-- What stood between double quotes as a part of its word. It makes a field even when it is empty,
unless it is nothing but all arguments: these make as many fields as there are. -/
def quotedParts (parts : Word) : Word :=
  match parts with
  | [.parameter true .arguments _] => parts
  | _ => .text true [] :: parts

/-- A word; none where no word begins. -/
def readWord (done : Word) : Nat → Reader Word
  | 0 => return done
  | fuel + 1 => do
    match ← left with
    | [] => return done
    | '\'' :: rest =>
      let chars := rest.takeWhile (· != '\'')
      if chars.length = rest.length then complain "Unterminated quoted string"
      skip (chars.length + 2)
      readWord (done ++ [.text true chars]) fuel
    | '"' :: _ =>
      skip 1
      readWord (done ++ quotedParts (← readQuoted [] fuel)) fuel
    | '$' :: _ =>
      skip 1
      readWord (done ++ [← readParameter false]) fuel
    | '\\' :: '\n' :: _ => skip 2; readWord done fuel
    | '\\' :: c :: _ =>
      skip 2
      readWord (done ++ [.text true [c]]) fuel
    | c :: _ =>
      if endsWord c then return done
      else
        skip 1
        readWord (done ++ [.text false [c]]) fuel

/-- The kind of redirection that begins with the given characters, and its length. -/
def redirection? : List Char → Option (Nat × Stream × Nat)
  | '>' :: '>' :: _ => some (1, .append, 2)
  | '>' :: '&' :: _ => some (1, .copy, 2)
  | '<' :: '&' :: _ => some (0, .copy, 2)
  | '>' :: '|' :: _ => some (1, .write, 2)
  | '>' :: _ => some (1, .write, 1)
  | '<' :: _ => some (0, .read, 1)
  | _ => none

/-- A redirection with or without the number of its stream. -/
def numberedRedirection? (chars : List Char) : Option (Nat × Stream × Nat) :=
  match chars with
  | c :: rest =>
    if c.isDigit then
      (redirection? rest).map fun (_, stream, length) => (c.toNat - 0x30, stream, length + 1)
    else redirection? chars
  | [] => none

/-- The assignment that a word is, if it is one. -/
def assignment? (word : Word) : Option (String × Word) :=
  let plain := word.takeWhile fun
    | .text false chars => chars != ['=']
    | _ => false
  let name := plain.flatMap fun
    | .text _ chars => chars
    | _ => []
  match word.drop plain.length with
  | .text false ['='] :: value =>
    if isName name then some (String.ofList name, value) else none
  | _ => none

def readSimple (line : Nat) (assignments : List (String × Word)) (words : List Word)
    (redirections : List Redirection) : Nat → Reader Command
  | 0 => return .simple line assignments words redirections
  | fuel + 1 => do
    skipBlanks fuel
    match numberedRedirection? (← left) with
    | some (number, stream, length) =>
      skip length
      skipBlanks fuel
      let target ← readWord [] fuel
      readSimple line assignments words (redirections ++ [⟨number, stream, target⟩]) fuel
    | none =>
      match ← left with
      | [] => return .simple line assignments words redirections
      | '#' :: _ => return .simple line assignments words redirections
      | c :: _ =>
        if endsWord c then return .simple line assignments words redirections
        else
          let word ← readWord [] fuel
          match if words.isEmpty then assignment? word else none with
          | some assignment =>
            readSimple line (assignments ++ [assignment]) words redirections fuel
          | none => readSimple line assignments (words ++ [word]) redirections fuel

/-- The word that stands next, where it could be a keyword. -/
def nextKeyword : Reader String := do
  return String.ofList ((← left).takeWhile fun c => !endsWord c)

def expect (keyword : String) (fuel : Nat) : Reader Unit := do
  skipLines fuel
  if (← nextKeyword) = keyword then skip keyword.length
  else complain ("expecting \"" ++ keyword ++ "\"")

def readWords (done : List Word) : Nat → Reader (List Word)
  | 0 => return done
  | fuel + 1 => do
    skipBlanks fuel
    match ← left with
    | [] => return done
    | c :: _ =>
      if endsWord c then return done
      else readWords (done ++ [← readWord [] fuel]) fuel

/-- Takes a semicolon, if one stands next. -/
def skipSemicolon (fuel : Nat) : Reader Unit := do
  skipBlanks fuel
  match ← left with
  | ';' :: _ => skip 1
  | _ => return

mutual

/-- Commands up to one of the keywords or the end. -/
def readList (stops : List String) (done : Command) : Nat → Reader Command
  | 0 => return done
  | fuel + 1 => do
    skipLines fuel
    let keyword ← nextKeyword
    match ← left with
    | [] => return done
    | c :: _ =>
      if stops.contains keyword then return done
      else if endsWord c && (redirection? [c]).isNone then
        complain ("\"" ++ String.ofList [c] ++ "\" unexpected")
      else
        let command ← readChain fuel
        skipSemicolon fuel
        let done := match done with
          | .nothing => command
          | _ => .list done command
        readList stops done fuel
termination_by structural fuel => fuel

/-- Commands joined by `&&` and `||`. -/
def readChain : Nat → Reader Command
  | 0 => return .nothing
  | fuel + 1 => do
    let first ← readCommand fuel
    readLinks first fuel
termination_by structural fuel => fuel

/-- What follows the first command of a chain. -/
def readLinks (first : Command) : Nat → Reader Command
  | 0 => return first
  | fuel + 1 => do
    skipBlanks fuel
    match ← left with
    | '&' :: '&' :: _ =>
      skip 2
      skipLines fuel
      readLinks (.both first (← readCommand fuel)) fuel
    | '|' :: '|' :: _ =>
      skip 2
      skipLines fuel
      readLinks (.either first (← readCommand fuel)) fuel
    | _ => return first
termination_by structural fuel => fuel

def readCommand : Nat → Reader Command
  | 0 => return .nothing
  | fuel + 1 => do
    skipBlanks fuel
    let keyword ← nextKeyword
    if keyword = "!" then
      skip 1
      return .negated (← readCommand fuel)
    else if keyword = "if" then
      skip 2
      readChoice fuel
    else if keyword = "while" ∨ keyword = "until" then
      skip 5
      let test ← readList ["do"] .nothing fuel
      let body ← readBody fuel
      return .loop (keyword = "while") test body
    else if keyword = "for" then
      skip 3
      skipBlanks fuel
      let name ← nextKeyword
      skip name.length
      skipLines fuel
      let words ←
        if (← nextKeyword) = "in" then
          skip 2
          some <$> readWords [] fuel
        else pure none
      skipSemicolon fuel
      return .each name words (← readBody fuel)
    else if keyword = "\x7b" then
      skip 1
      let inner ← readList ["\x7d"] .nothing fuel
      expect "\x7d" fuel
      return inner
    else readSimple (← get).line [] [] [] fuel
termination_by structural fuel => fuel

def readBody : Nat → Reader Command
  | 0 => return .nothing
  | fuel + 1 => do
    expect "do" fuel
    let body ← readList ["done"] .nothing fuel
    expect "done" fuel
    return body
termination_by structural fuel => fuel

/-- A choice whose first keyword has been taken. -/
def readChoice : Nat → Reader Command
  | 0 => return .nothing
  | fuel + 1 => do
    let test ← readList ["then"] .nothing fuel
    expect "then" fuel
    let yes ← readList ["elif", "else", "fi"] .nothing fuel
    let keyword ← nextKeyword
    if keyword = "elif" then
      skip 4
      return .choice test yes (← readChoice fuel)
    else if keyword = "else" then
      skip 4
      let no ← readList ["fi"] .nothing fuel
      expect "fi" fuel
      return .choice test yes no
    else
      expect "fi" fuel
      return .choice test yes .nothing
termination_by structural fuel => fuel

end

def readScript (chars : List Char) : Except Complaint Command :=
  let fuel := 8 * chars.length + 16
  (readList [] .nothing fuel).run' ⟨chars, 1⟩

end LineScript.Shell
