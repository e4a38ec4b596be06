import LineScript.Yaml.Plain
import LineScript.Yaml.Token

/-!
# Quoted scalars
Between single quotes everything stands for itself, a doubled quote for one quote. Between double
quotes a backslash begins an escape. In both, lines are joined as in plain scalars.
-/
namespace LineScript.Yaml

/-- What a single character after a backslash stands for. -/
def escapes : List (Char × Char) := [
  ('0', '\x00'), ('a', '\x07'), ('b', '\x08'), ('t', '\t'), ('\t', '\t'), ('n', '\n'),
  ('v', '\x0b'), ('f', '\x0c'), ('r', '\r'), ('e', '\x1b'), (' ', ' '), ('"', '"'), ('\\', '\\'),
  ('/', '/'), ('N', '\x85'), ('_', '\xa0'), ('L', '\u2028'), ('P', '\u2029')]

/-- How many digits follow a character that begins a code. -/
def codeLength? : Char → Option Nat
  | 'x' => some 2
  | 'u' => some 4
  | 'U' => some 8
  | _ => none

def hexValue? (c : Char) : Option Nat :=
  if c.isDigit then some (c.toNat - 0x30)
  else if 'a' ≤ c ∧ c ≤ 'f' then some (c.toNat - 0x57)
  else if 'A' ≤ c ∧ c ≤ 'F' then some (c.toNat - 0x37)
  else none

def ofHexDigits (digits : List Nat) : Nat := digits.foldl (fun n digit => n * 16 + digit) 0

/-- The character with a code. Half of a pair is no character and is replaced. -/
def charOfCode (code : Nat) : Except Defect Char :=
  if 0x7fffffff < code then .error (.worthless (.overflow .code))
  else if 0x10ffff < code then .error (.worthless (.value .codeOutOfRange))
  else if 0xd800 ≤ code ∧ code ≤ 0xdfff then .ok Text.Utf8.replacement
  else .ok (Char.ofNat code)

/-- The line breaks at the front, with the blanks around them. -/
def flowBreaks (done : List Char) : Nat → Cursor → Except Defect (List Char × Cursor)
  | 0, cursor => .ok (done, cursor)
  | fuel + 1, cursor =>
    if cursor.atDocumentMark then .error .malformed
    else
      let cursor := cursor.skipWhile fun c => c == ' ' || c == '\t'
      let (lineBreak, after) := cursor.lineBreak
      if lineBreak.isEmpty then .ok (done, cursor) else flowBreaks (done ++ lineBreak) fuel after

/-- What the blanks at the front of the rest of a quoted scalar count as. -/
def flowSpaces (cursor : Cursor) : Except Defect (List Char × Cursor) := do
  let (spaces, cursor) := cursor.takeWhile fun c => c == ' ' || c == '\t'
  let (lineBreak, after) := cursor.lineBreak
  if isEnd cursor.front then throw .malformed
  else if lineBreak.isEmpty then return (spaces, cursor)
  else
    let (breaks, cursor) ← flowBreaks [] after.patience after
    return (folded lineBreak breaks, cursor)

/-- What an escape stands for whose backslash has been taken. -/
def escape (cursor : Cursor) : Except Defect (List Char × Cursor) := do
  match escapes.lookup cursor.front, codeLength? cursor.front with
  | some c, _ => return ([c], cursor.next)
  | none, some length =>
    match ((cursor.rest.drop 1).take length).mapM hexValue? with
    | some digits =>
      if digits.length < length then throw .malformed
      else return ([← charOfCode (ofHexDigits digits)], cursor.advance (length + 1))
    | none => throw .malformed
  | none, none =>
    let (lineBreak, after) := cursor.lineBreak
    if lineBreak.isEmpty then throw .malformed else flowBreaks [] after.patience after

/-- The rest of a quoted scalar, and the place after its closing quote. -/
def quotedFrom (isDouble : Bool) (done : List Char) :
    Nat → Cursor → Except Defect (List Char × Cursor)
  | 0, _ => .error .malformed
  | fuel + 1, cursor => do
    let c := cursor.front
    if c = '\'' ∧ !isDouble then
      if cursor.ahead 1 = '\'' then quotedFrom isDouble (done ++ ['\'']) fuel (cursor.advance 2)
      else return (done, cursor.next)
    else if c = '"' ∧ isDouble then return (done, cursor.next)
    else if c = '\\' ∧ isDouble then
      let (chars, cursor) ← escape cursor.next
      quotedFrom isDouble (done ++ chars) fuel cursor
    else if isGap c then
      let (chars, cursor) ← flowSpaces cursor
      quotedFrom isDouble (done ++ chars) fuel cursor
    else quotedFrom isDouble (done ++ [c]) fuel cursor.next

def quotedScalar (isDouble : Bool) (cursor : Cursor) : Except Defect (List Char × Cursor) :=
  quotedFrom isDouble [] cursor.patience cursor.next

end LineScript.Yaml
