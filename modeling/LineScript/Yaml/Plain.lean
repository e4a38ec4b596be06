import LineScript.Yaml.Cursor

/-!
# Plain scalars
A plain scalar needs no marks around it: it ends before a colon or a number sign that stands apart,
and between brackets also before these and commas. It may go on over several lines, which are then
joined by spaces; an empty line between them is kept as a line break.
-/
namespace LineScript.Yaml

/-- What a line break and the empty lines after it count as: a single break becomes a space. -/
def folded (first breaks : List Char) : List Char :=
  if first != ['\n'] then first ++ breaks else if breaks.isEmpty then [' '] else breaks

/-- A character that a plain scalar cannot hold between brackets. -/
def isFlowMark (c : Char) : Bool := ",?[]\x7b\x7d".toList.contains c

/-- A character that ends a run of a plain scalar, given the one that follows it. -/
def endsRun (inFlow : Bool) (c next : Char) : Bool :=
  isGap c || (c == ':' && (isGap next || inFlow && isFlowMark next && next != '?')) ||
    inFlow && isFlowMark c

/-- The longest run of a plain scalar at the front. -/
def plainRun (inFlow : Bool) : List Char → List Char
  | [] => []
  | c :: rest =>
    if endsRun inFlow c (rest.headD '\x00') then [] else c :: plainRun inFlow rest

/-- What stands between two runs of a plain scalar, and whether a line ends there. Nothing stands
there if the scalar cannot go on. -/
structure Gap where
  text : List Char
  cursor : Cursor
  endsLine : Bool

/-- The empty lines of a gap; none if a mark ends the document there. -/
def gapBreaks (done : List Char) : Nat → Cursor → Option (List Char) × Cursor
  | 0, cursor => (some done, cursor)
  | fuel + 1, cursor =>
    if cursor.front = ' ' then gapBreaks done fuel cursor.next
    else
      let (lineBreak, after) := cursor.lineBreak
      if lineBreak.isEmpty then (some done, cursor)
      else if after.atDocumentMark then (none, after)
      else gapBreaks (done ++ lineBreak) fuel after

def Gap.read (cursor : Cursor) : Gap :=
  let (spaces, cursor) := cursor.takeWhile (· == ' ')
  let (lineBreak, after) := cursor.lineBreak
  if lineBreak.isEmpty then ⟨spaces, cursor, false⟩
  else if after.atDocumentMark then ⟨[], after, true⟩
  else match gapBreaks [] after.patience after with
    | (none, cursor) => ⟨[], cursor, true⟩
    | (some breaks, cursor) => ⟨folded lineBreak breaks, cursor, true⟩

/-- A plain scalar, the place after it, and whether a line ended last. -/
structure PlainScalar where
  text : List Char
  cursor : Cursor
  endsLine : Bool

/-- Goes on with a plain scalar after a gap; its lines stand at least at the column `indent`. -/
def PlainScalar.readFrom (inFlow : Bool) (indent : Int) (done : List Char) (gap : Gap) :
    Nat → PlainScalar
  | 0 => ⟨done, gap.cursor, gap.endsLine⟩
  | fuel + 1 =>
    let run := plainRun inFlow gap.cursor.rest
    if gap.cursor.front = '#' ∨ run.isEmpty then ⟨done, gap.cursor, gap.endsLine⟩
    else
      let done := done ++ gap.text ++ run
      let gap := Gap.read (gap.cursor.advance run.length)
      if gap.text.isEmpty || gap.cursor.front == '#' ||
          (!inFlow && decide ((gap.cursor.column : Int) < indent)) then
        ⟨done, gap.cursor, gap.endsLine⟩
      else readFrom inFlow indent done gap fuel

def PlainScalar.read (inFlow : Bool) (indent : Int) (cursor : Cursor) : PlainScalar :=
  readFrom inFlow indent [] ⟨[], cursor, false⟩ cursor.patience

end LineScript.Yaml
