import LineScript.Environment
import LineScript.Files.Change
import LineScript.Shell.Source

/-!
# The state of a shell
What a running script knows and has written, and the words of its commands with their parameters
replaced.
-/
namespace LineScript.Shell

def ofBytes (bytes : List UInt8) : List Char := bytes.map fun b => Char.ofNat b.toNat

def toBytes (chars : List Char) : List UInt8 := chars.map fun c => c.toNat.toUInt8

def ofText (text : String) : List Char := ofBytes (Text.Utf8.encode text)

def toText (chars : List Char) : String := Text.Utf8.decode (toBytes chars)

/-- A running script. Its end is a status, or the negated number of a signal. -/
structure State where
  store : Files.Store
  workdir : String
  /-- The values of its variables. -/
  bindings : Table String
  exported : List String
  name : String
  arguments : List (List Char)
  status : Int
  stdout : List UInt8
  stderr : List UInt8
  ended : Option Int

namespace State

def lookup (s : State) (name : String) : List Char := ofText ((s.bindings.find? name).getD "")

def assign (s : State) (name : String) (value : List Char) : State :=
  { s with bindings := s.bindings.insert name (toText value) }

/-- The environment of programs that the script starts. -/
def environment (s : State) : Environment :=
  ⟨s.bindings.entries.filter fun entry => s.exported.contains entry.1⟩

/-- The number by which the script knows itself. -/
def process : Nat := 4242

/-- What a parameter stands for where it is one text. -/
def value (s : State) : Parameter → List Char
  | .variable name => s.lookup name
  | .argument 0 => ofText s.name
  | .argument (number + 1) => s.arguments.getD number []
  | .arguments => [' '].intercalate s.arguments
  | .joined => [' '].intercalate s.arguments
  | .count => (toString s.arguments.length).toList
  | .status => (toString s.status).toList
  | .process => (toString process).toList

end State

/-- Fields made so far, and the one that is open. -/
structure Fields where
  done : List (List Char)
  current : Option (List Char)

/-- Adds text to the open field, opening one if needed. -/
def Fields.add (fields : Fields) (chars : List Char) : Fields :=
  { fields with current := some (fields.current.getD [] ++ chars) }

def Fields.close (fields : Fields) : Fields :=
  match fields.current with
  | some chars => ⟨fields.done ++ [chars], none⟩
  | none => fields

/-- Adds text that is split at its blanks. -/
def Fields.addSplit (fields : Fields) : List Char → Fields
  | [] => fields
  | c :: rest =>
    if c = ' ' ∨ c = '\t' ∨ c = '\n' then fields.close.addSplit rest
    else (fields.add [c]).addSplit rest

/-- Adds texts that stay fields of their own. -/
def Fields.addAll (fields : Fields) : List (List Char) → Fields
  | [] => fields
  | [chars] => fields.add chars
  | chars :: rest => (fields.add chars).close.addAll rest

/-- Adds a part of a word. -/
def Fields.addPiece (s : State) (fields : Fields) : Piece → Fields
  | .text quoted chars => if quoted || !chars.isEmpty then fields.add chars else fields
  | .parameter true .arguments _ => fields.addAll s.arguments
  | .parameter false .arguments _ =>
    s.arguments.foldl (fun fields chars => (fields.addSplit chars).close) fields
  | .parameter quoted parameter taking =>
    let value := taking.apply (s.value parameter)
    if quoted then fields.add value else fields.addSplit value

/-- The fields that a word stands for. -/
def State.fields (s : State) (word : Word) : List (List Char) :=
  (word.foldl (Fields.addPiece s) ⟨[], none⟩).close.done

/-- The one text that a word stands for. -/
def State.text (s : State) (word : Word) : List Char :=
  word.flatMap fun
    | .text _ chars => chars
    | .parameter _ parameter taking => taking.apply (s.value parameter)

end LineScript.Shell
