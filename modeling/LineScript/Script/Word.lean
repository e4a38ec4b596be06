/-!
# Words
A line is split into words at the spaces and tabs outside quotes. How it is split depends on the
line alone: a word is first a list of segments, plain or quoted, and only then are the plain
segments expanded. Inside quotes a doubled quote stands for one.
-/
namespace LineScript.Script

/-- Why a line cannot be read. -/
inductive SyntaxFault where
  | unterminatedQuote
  | unterminatedGuard (word : String)
  | emptyGuard (text : String)
  | missingCommand
  deriving DecidableEq, Repr

def SyntaxFault.message : SyntaxFault → String
  | .unterminatedQuote => "unterminated quoted argument"
  | .unterminatedGuard word => "unterminated condition " ++ word
  | .emptyGuard text => "empty condition [" ++ text ++ "]"
  | .missingCommand => "missing command"

/-- A part of a word as it stands in the line, the quotes of a quoted one undone. -/
inductive Segment where
  | plain (chars : List Char)
  | quoted (chars : List Char)
  deriving DecidableEq, Repr

def Segment.isQuoted : Segment → Bool
  | .plain _ => false
  | .quoted _ => true

/-- A character that separates words. -/
def isSeparator (c : Char) : Bool := c == ' ' || c == '\t'

/-- Where a scan of a line stands: between words, or in a plain or quoted segment of a word. The
segments of the word so far and the characters of the open segment stand last one first. -/
inductive Scan where
  | between
  | plain (done : List Segment) (chars : List Char)
  | quoted (done : List Segment) (chars : List Char)

/-- The segments so far with an open plain segment closed, unless it is empty. -/
def closePlain (done : List Segment) (chars : List Char) : List Segment :=
  if chars.isEmpty then done else .plain chars.reverse :: done

/-- The words of the rest of a line. -/
def Scan.words : Scan → List Char → Except SyntaxFault (List (List Segment))
  | .between, [] => .ok []
  | .between, c :: rest =>
    if isSeparator c then Scan.words .between rest
    else if c = '\'' then Scan.words (.quoted [] []) rest
    else Scan.words (.plain [] [c]) rest
  | .plain done chars, [] => .ok [(closePlain done chars).reverse]
  | .plain done chars, c :: rest =>
    if isSeparator c then
      (Scan.words .between rest).map ((closePlain done chars).reverse :: ·)
    else if c = '\'' then Scan.words (.quoted (closePlain done chars) []) rest
    else Scan.words (.plain done (c :: chars)) rest
  | .quoted _ _, [] => .error .unterminatedQuote
  | .quoted done chars, '\'' :: '\'' :: rest => Scan.words (.quoted done ('\'' :: chars)) rest
  | .quoted done chars, c :: rest =>
    if c = '\'' then Scan.words (.plain (.quoted chars.reverse :: done) []) rest
    else Scan.words (.quoted done (c :: chars)) rest

/-- The words of a line as lists of segments. -/
def rawWords (line : String) : Except SyntaxFault (List (List Segment)) :=
  Scan.words .between line.toList

/-- A word of a line after expansion, and whether a part of it was quoted. -/
structure Word where
  text : String
  quoted : Bool
  deriving DecidableEq, Repr

/-- The text of a segment: what is quoted is never expanded. -/
def Segment.text (expand : String → String) : Segment → String
  | .plain chars => expand (String.ofList chars)
  | .quoted chars => String.ofList chars

def Word.ofSegments (expand : String → String) (segments : List Segment) : Word where
  text := String.join (segments.map (Segment.text expand))
  quoted := segments.any Segment.isQuoted

/-- The words of a line, their plain segments expanded. -/
def splitWords (line : String) (expand : String → String) : Except SyntaxFault (List Word) :=
  (rawWords line).map (List.map (Word.ofSegments expand))

/-- A text as a quoted word: between quotes, its own quotes doubled. -/
def quoteWord (text : String) : String :=
  "'" ++ String.ofList (text.toList.flatMap fun c => if c = '\'' then ['\'', '\''] else [c]) ++ "'"

end LineScript.Script
