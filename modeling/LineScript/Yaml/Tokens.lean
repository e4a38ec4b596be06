import LineScript.Yaml.Mark

/-!
# Cutting a document into tokens
Outside brackets, indentation opens and closes lists and maps. Only at a colon it turns out that
what stands before it on the line is a key; the marks of the key are then put in front of it.
-/
namespace LineScript.Yaml

/-- Something that may turn out to be a key: the number of its first token, where it stands, and
whether its column says that it has to be one. -/
structure Candidate where
  number : Nat
  isRequired : Bool
  index : Nat
  line : Nat
  column : Nat

/-- How far cutting a document has come. -/
structure Cutting where
  cursor : Cursor
  tokens : Array Token
  /-- The column of the innermost block, one left of the first outside of all. -/
  indent : Int
  /-- The columns of the blocks around it. -/
  outer : List Int
  /-- How many brackets are open. -/
  depth : Nat
  /-- A key may begin here. -/
  allowsKey : Bool
  /-- What may be a key, by how many brackets are open. -/
  candidates : List (Nat × Candidate)

/-- A step of cutting. -/
abbrev Cut := StateT Cutting (Except Defect)

/-- The longest key, in characters. -/
def maxKey : Nat := 1024

namespace Cut

def emit (token : Token) : Cut Unit :=
  modify fun cutting => { cutting with tokens := cutting.tokens.push token }

def goto (cursor : Cursor) : Cut Unit := modify fun cutting => { cutting with cursor := cursor }

/-- Says whether a key may begin. -/
def allowKey (allowsKey : Bool) : Cut Unit :=
  modify fun cutting => { cutting with allowsKey := allowsKey }

/-- Takes characters and adds the token that they make. -/
def take (count : Nat) (token : Token) : Cut Unit := do
  goto ((← get).cursor.advance count)
  emit token

/-- Adds what a reader makes of the front. -/
def read {α : Type} (reader : Cursor → Except Defect (α × Cursor)) (token : α → Token) :
    Cut Unit := do
  let (value, cursor) ← reader (← get).cursor
  goto cursor
  emit (token value)

/-- Skips blanks, comments and line ends. Outside brackets a key may begin on a new line. -/
def skipGaps : Nat → Cut Unit
  | 0 => return
  | fuel + 1 => do
    let cutting ← get
    let cursor := cutting.cursor.skipWhile (· == ' ')
    let cursor := if cursor.front = '#' then cursor.skipWhile (!endsLine ·) else cursor
    let (lineBreak, after) := cursor.lineBreak
    if lineBreak.isEmpty then goto cursor
    else
      set { cutting with cursor := after, allowsKey := cutting.allowsKey || cutting.depth == 0 }
      skipGaps fuel

/-- Drops the candidates that can no longer be keys; one that has to be one is a defect. -/
def dropStale : Cut Unit := do
  let cutting ← get
  let isStale (candidate : Candidate) : Bool :=
    candidate.line != cutting.cursor.line || maxKey < cutting.cursor.index - candidate.index
  if cutting.candidates.any fun entry => isStale entry.2 && entry.2.isRequired then
    throw .malformed
  else set { cutting with candidates := cutting.candidates.filter fun entry => !isStale entry.2 }

/-- Drops the candidate between the innermost brackets; one that has to be a key is a defect. -/
def dropCandidate : Cut Unit := do
  let cutting ← get
  match cutting.candidates.lookup cutting.depth with
  | some candidate => if candidate.isRequired then throw .malformed
  | none => return
  set { cutting with candidates := cutting.candidates.filter (·.1 != cutting.depth) }

/-- Notes that the next token may begin a key. -/
def noteCandidate : Cut Unit := do
  if (← get).allowsKey then
    dropCandidate
    let cutting ← get
    let cursor := cutting.cursor
    let candidate : Candidate := {
      number := cutting.tokens.size
      isRequired := cutting.depth == 0 && cutting.indent == cursor.column
      index := cursor.index
      line := cursor.line
      column := cursor.column }
    set { cutting with candidates := (cutting.depth, candidate) :: cutting.candidates }

/-- Closes the blocks that stand to the right of a column. -/
def closeBlocks (column : Int) : Cut Unit :=
  modify fun cutting =>
    if cutting.depth != 0 then cutting
    else
      let columns := cutting.indent :: cutting.outer
      let kept := columns.dropWhile (decide <| column < ·)
      let closed := columns.length - kept.length
      match kept with
      | [] => cutting
      | indent :: outer => { cutting with
          indent := indent
          outer := outer
          tokens := cutting.tokens ++ Array.replicate closed Token.blockEnd }

/-- Opens a block at a column, unless one stands there; says whether it did. -/
def openBlock (column : Nat) : Cut Bool := do
  let cutting ← get
  if cutting.indent < column then
    set { cutting with indent := (column : Int), outer := cutting.indent :: cutting.outer }
    return true
  else return false

/-- Opens a block at the place of the next token, and adds its mark. -/
def openBlockHere (token : Token) : Cut Unit := do
  if ← openBlock (← get).cursor.column then emit token

/-- Puts a token in front of the token with a number. -/
def insert (number : Nat) (token : Token) : Cut Unit :=
  modify fun cutting => { cutting with
    tokens := cutting.tokens.take number ++ #[token] ++ cutting.tokens.drop number }

/-- Ends all blocks, before a directive, a mark between documents, or the end. -/
def endBlocks : Cut Unit := do
  closeBlocks (-1)
  dropCandidate
  allowKey false

def openBracket (token : Token) : Cut Unit := do
  noteCandidate
  modify fun cutting => { cutting with depth := cutting.depth + 1, allowsKey := true }
  take 1 token

def closeBracket (token : Token) : Cut Unit := do
  dropCandidate
  if (← get).depth = 0 then throw .malformed
  else
    modify fun cutting => { cutting with depth := cutting.depth - 1, allowsKey := false }
    take 1 token

/-- The mark of an item or a key that stands by itself. Outside brackets it may open a block. -/
def blockMark (block token : Token) (allowsKey : Bool) : Cut Unit := do
  if (← get).depth = 0 then
    if (← get).allowsKey then openBlockHere block else throw .malformed
  allowKey allowsKey
  dropCandidate
  take 1 token

/-- A colon after a key. -/
def keyedValue (candidate : Candidate) : Cut Unit := do
  modify fun cutting => { cutting with
    candidates := cutting.candidates.filter (·.1 != cutting.depth)
    allowsKey := false }
  insert candidate.number .key
  if (← get).depth = 0 then
    if ← openBlock candidate.column then insert candidate.number .blockMap
  take 1 .value

def value : Cut Unit := do
  let cutting ← get
  match cutting.candidates.lookup cutting.depth with
  | some candidate => keyedValue candidate
  | none => blockMark .blockMap .value (cutting.depth == 0)

/-- Something that may be a key or begin one: a name, a tag or a scalar. -/
def keyable (add : Cut Unit) : Cut Unit := do
  noteCandidate
  allowKey false
  add

def block (isFolded : Bool) : Cut Unit := do
  allowKey true
  dropCandidate
  let indent := (← get).indent
  read (blockScalar isFolded indent) fun text => .scalar false (String.ofList text)

def quoted (isDouble : Bool) : Cut Unit :=
  read (quotedScalar isDouble) fun text => .scalar false (String.ofList text)

/-- A plain scalar. When a line ended behind it, a key may begin. -/
def plain : Cut Unit := do
  let cutting ← get
  let scalar := PlainScalar.read (cutting.depth != 0) (cutting.indent + 1) cutting.cursor
  goto scalar.cursor
  allowKey scalar.endsLine
  emit (.scalar true (String.ofList scalar.text))

/-- A plain scalar begins at the front. -/
def beginsPlain (cutting : Cutting) : Bool :=
  let c := cutting.cursor.front
  !(isGap c || "-?:,[]\x7b\x7d#&*!|>'\"%@`".toList.contains c) ||
    (!isGap (cutting.cursor.ahead 1) &&
      (c == '-' || (cutting.depth == 0 && (c == '?' || c == ':'))))

/-- Adds the next token; says whether there are more. -/
def next : Cut Bool := do
  skipGaps (← get).cursor.patience
  dropStale
  closeBlocks (← get).cursor.column
  let cutting ← get
  let cursor := cutting.cursor
  let c := cursor.front
  let atStart := cursor.column == 0
  let isBlock := cutting.depth == 0
  let standsAlone := isGap (cursor.ahead 1)
  if isEnd c then
    endBlocks
    emit .streamEnd
    return false
  else
    if c == '%' && atStart then
      endBlocks
      read readDirective .directive
    else if atStart && cursor.atMark '-' then endBlocks; take 3 .documentStart
    else if atStart && cursor.atMark '.' then endBlocks; take 3 .documentEnd
    else if c == '[' then openBracket .openList
    else if c == '\x7b' then openBracket .openMap
    else if c == ']' then closeBracket .closeList
    else if c == '\x7d' then closeBracket .closeMap
    else if c == ',' then
      allowKey true
      dropCandidate
      take 1 .entry
    else if c == '-' && standsAlone then blockMark .blockList .item true
    else if c == '?' && (!isBlock || standsAlone) then blockMark .blockMap .key isBlock
    else if c == ':' && (!isBlock || standsAlone) then value
    else if c == '*' then keyable (read linkName .link)
    else if c == '&' then keyable (read linkName .anchor)
    else if c == '!' then keyable (read readTag fun tag => .tag tag.1 tag.2)
    else if c == '|' && isBlock then block false
    else if c == '>' && isBlock then block true
    else if c == '\'' then keyable (quoted false)
    else if c == '"' then keyable (quoted true)
    else if beginsPlain cutting then keyable plain
    else throw .malformed
    return true

end Cut

/-- Cuts on until the end, or until a defect. -/
def cutFrom : Nat → Cutting → List Token
  | 0, cutting => cutting.tokens.toList
  | fuel + 1, cutting => match Cut.next.run cutting with
    | .error defect => cutting.tokens.toList ++ [.broken defect]
    | .ok (true, cutting) => cutFrom fuel cutting
    | .ok (false, cutting) => cutting.tokens.toList

/-- The tokens of a document. A byte order mark in front of it is skipped. -/
def tokens (text : List Char) : List Token :=
  let cursor := Cursor.start text
  let cursor := if cursor.front = '\uFEFF' then cursor.next else cursor
  cutFrom cursor.patience {
    cursor := cursor
    tokens := #[]
    indent := -1
    outer := []
    depth := 0
    allowsKey := true
    candidates := [] }

end LineScript.Yaml
