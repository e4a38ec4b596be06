import LineScript.Yaml.Plain
import LineScript.Yaml.Token

/-!
# Block scalars
A block scalar is a text of its own lines, all of them indented alike. A bar keeps the lines as they
are, an angle joins those that stand at the margin. A sign behind it tells whether the line breaks
at the end are kept or dropped, otherwise one is kept; a digit gives the indentation.
-/
namespace LineScript.Yaml

/-- What is said behind the mark of a block scalar. -/
structure BlockHeader where
  /-- Whether all line breaks at the end are kept; without it, one is. -/
  keeps : Option Bool
  indent : Option Nat

/-- The place after the end of a line, with nothing but a comment before it. -/
def endOfLine (cursor : Cursor) : Except Defect Cursor :=
  let cursor := cursor.skipWhile (· == ' ')
  let cursor := if cursor.front = '#' then cursor.skipWhile (!endsLine ·) else cursor
  if endsLine cursor.front then .ok cursor.lineBreak.2 else .error .malformed

def keepSign (cursor : Cursor) : Option Bool × Cursor :=
  if cursor.front = '+' then (some true, cursor.next)
  else if cursor.front = '-' then (some false, cursor.next)
  else (none, cursor)

def indentDigit (cursor : Cursor) : Except Defect (Option Nat × Cursor) :=
  if cursor.front.isDigit then
    if cursor.front = '0' then .error .malformed
    else .ok (some (cursor.front.toNat - 0x30), cursor.next)
  else .ok (none, cursor)

/-- The header of a block scalar, sign and digit in any order. -/
def BlockHeader.read (cursor : Cursor) : Except Defect (BlockHeader × Cursor) := do
  let (sign, cursor) := keepSign cursor
  let (digit, cursor) ← indentDigit cursor
  let (sign, cursor) := if sign.isNone && digit.isSome then keepSign cursor else (sign, cursor)
  if isSpaceOrEnd cursor.front then return (⟨sign, digit⟩, cursor) else throw .malformed

/-- The empty lines at the front of a block scalar, and the widest column that spaces reach. -/
def blockMargin (done : List Char) (widest : Nat) : Nat → Cursor → List Char × Nat × Cursor
  | 0, cursor => (done, widest, cursor)
  | fuel + 1, cursor =>
    if cursor.front = ' ' then blockMargin done (max widest cursor.next.column) fuel cursor.next
    else
      let (lineBreak, after) := cursor.lineBreak
      if lineBreak.isEmpty then (done, widest, cursor)
      else blockMargin (done ++ lineBreak) widest fuel after

/-- The spaces at the front, up to a column. -/
def skipMargin (indent : Nat) : Nat → Cursor → Cursor
  | 0, cursor => cursor
  | fuel + 1, cursor =>
    if cursor.column < indent ∧ cursor.front = ' ' then skipMargin indent fuel cursor.next
    else cursor

/-- The empty lines at the front, and the place behind the margin of the next line. -/
def blockBreaks (indent : Nat) (done : List Char) : Nat → Cursor → List Char × Cursor
  | 0, cursor => (done, cursor)
  | fuel + 1, cursor =>
    let cursor := skipMargin indent cursor.patience cursor
    let (lineBreak, after) := cursor.lineBreak
    if lineBreak.isEmpty then (done, cursor)
    else blockBreaks indent (done ++ lineBreak) fuel after

/-- The lines of a block scalar: their text, the last line break, and the empty lines at the end. -/
structure BlockLines where
  text : List Char
  lineBreak : List Char
  breaks : List Char
  cursor : Cursor

/-- Goes on with the lines of a block scalar. -/
def BlockLines.readFrom (isFolded : Bool) (indent : Nat) (done : BlockLines) : Nat → BlockLines
  | 0 => done
  | fuel + 1 =>
    if done.cursor.column = indent ∧ !isEnd done.cursor.front then
      let startsPlain (cursor : Cursor) : Bool := cursor.front != ' ' && cursor.front != '\t'
      let (line, cursor) := done.cursor.takeWhile (!endsLine ·)
      let (lineBreak, cursor) := cursor.lineBreak
      let (breaks, cursor) := blockBreaks indent [] cursor.patience cursor
      let text := done.text ++ done.breaks ++ line
      if cursor.column = indent ∧ !isEnd cursor.front then
        let joint :=
          if isFolded && lineBreak == ['\n'] && startsPlain done.cursor && startsPlain cursor then
            if breaks.isEmpty then [' '] else []
          else lineBreak
        readFrom isFolded indent ⟨text ++ joint, lineBreak, breaks, cursor⟩ fuel
      else ⟨text, lineBreak, breaks, cursor⟩
    else done

/-- The block scalar at the front. The lines around it stand at the column `indent`. -/
def blockScalar (isFolded : Bool) (indent : Int) (cursor : Cursor) :
    Except Defect (List Char × Cursor) := do
  let (header, cursor) ← BlockHeader.read cursor.next
  let cursor ← endOfLine cursor
  let least := max (indent + 1).toNat 1
  let (breaks, column, cursor) := match header.indent with
    | none =>
      let (breaks, widest, cursor) := blockMargin [] 0 cursor.patience cursor
      (breaks, max least widest, cursor)
    | some digit =>
      let column := least + digit - 1
      let (breaks, cursor) := blockBreaks column [] cursor.patience cursor
      (breaks, column, cursor)
  let lines := BlockLines.readFrom isFolded column ⟨[], [], breaks, cursor⟩ cursor.patience
  let text := lines.text ++ (if header.keeps = some false then [] else lines.lineBreak) ++
    (if header.keeps = some true then lines.breaks else [])
  return (text, lines.cursor)

end LineScript.Yaml
