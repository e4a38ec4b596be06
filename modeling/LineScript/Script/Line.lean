import LineScript.Script.Guard

/-!
# Script lines
A line has guards, a prefix that says which outcome is expected, a command with its arguments,
and a mark that sends the command into the background:

    [guard] [!guard:suffix] ! command 'quoted argument' $NAME &

Blank lines and comments hold no command.
-/
namespace LineScript.Script

/-- Which outcome of its command a line expects. -/
inductive Expect where
  | success
  | failure
  | any
  deriving DecidableEq, Repr

/-- A line that runs a command. -/
structure Line where
  raw : String
  name : String
  args : List String
  guards : List Guard
  want : Expect
  background : Bool
  deriving DecidableEq, Repr

/-- An unquoted word that begins with a bracket. -/
def Word.opensGuard (word : Word) : Bool := !word.quoted && word.text.toList.head? == some '['

/-- The guard that a word writes. -/
def Word.guard (word : Word) : Except SyntaxFault Guard :=
  if word.text.toList.getLast? = some ']' then
    Guard.parse (String.ofList (word.text.toList.drop 1).dropLast)
  else .error (.unterminatedGuard word.text)

/-- Takes the guards from the front of a line. -/
def takeGuards : List Word → Except SyntaxFault (List Guard × List Word)
  | [] => .ok ([], [])
  | word :: rest =>
    if word.opensGuard then do
      let guard ← word.guard
      let (guards, rest) ← takeGuards rest
      pure (guard :: guards, rest)
    else .ok ([], word :: rest)

/-- The word stands alone and unquoted with this text. -/
def Word.isMark (word : Word) (text : String) : Bool := !word.quoted && word.text == text

/-- Takes the prefix from the front of a line. -/
def takePrefix : List Word → Expect × List Word
  | [] => (.success, [])
  | word :: rest =>
    if word.isMark "!" then (.failure, rest)
    else if word.isMark "?" then (.any, rest)
    else (.success, word :: rest)

/-- Takes the background mark from the end of a line. -/
def takeBackground (words : List Word) : Bool × List Word :=
  match words.getLast? with
  | some word => if word.isMark "&" then (true, words.dropLast) else (false, words)
  | none => (false, words)

/-- The line that its words make. -/
def Line.ofWords (raw : String) (words : List Word) : Except SyntaxFault Line := do
  let (guards, words) ← takeGuards words
  let (want, words) := takePrefix words
  let (background, words) := takeBackground words
  match words with
  | [] => throw .missingCommand
  | name :: args =>
    pure { raw, name := name.text, args := args.map (·.text), guards, want, background }

/-- The text is a comment. -/
def isComment (text : String) : Bool := text.toList.head? == some '#'

/-- Reads one line; blank lines and comments give none. -/
def Line.parse (text : String) (expand : String → String) : Except SyntaxFault (Option Line) :=
  let raw := Text.strip text
  if raw.isEmpty || isComment raw then .ok none
  else do
    let words ← splitWords raw expand
    some <$> Line.ofWords raw words

end LineScript.Script
