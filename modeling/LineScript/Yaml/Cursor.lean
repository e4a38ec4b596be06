/-!
# Places in a document
A document is read from its front. A cursor is a place in it: what is still to come, and how many
characters, lines and columns came before. Where nothing is to come the character NUL stands, which
no document holds.
-/
namespace LineScript.Yaml

/-- A character that ends a line. -/
def isBreak (c : Char) : Bool :=
  c == '\n' || c == '\r' || c == '\x85' || c == '\u2028' || c == '\u2029'

def isEnd (c : Char) : Bool := c == '\x00'

/-- The end of a line, or of the document. -/
def endsLine (c : Char) : Bool := isBreak c || isEnd c

def isGap (c : Char) : Bool := c == ' ' || c == '\t' || endsLine c

def isSpaceOrEnd (c : Char) : Bool := c == ' ' || endsLine c

/-- A character that can stand in a document. -/
def isAllowed (c : Char) : Bool :=
  let n := c.toNat
  n == 0x09 || n == 0x0a || n == 0x0d || (0x20 ≤ n && n ≤ 0x7e) || n == 0x85 ||
    (0xa0 ≤ n && n ≤ 0xd7ff) || (0xe000 ≤ n && n ≤ 0xfffd) || 0x10000 ≤ n

/-- A place in a document. -/
structure Cursor where
  rest : List Char
  index : Nat
  line : Nat
  column : Nat

namespace Cursor

/-- The start of a document. -/
def start (text : List Char) : Cursor := ⟨text, 0, 0, 0⟩

/-- The character some places ahead. -/
def ahead (cursor : Cursor) (count : Nat) : Char := cursor.rest.getD count '\x00'

def front (cursor : Cursor) : Char := cursor.ahead 0

/-- The place after the next character. A byte order mark takes no column. -/
def next (cursor : Cursor) : Cursor :=
  match cursor.rest with
  | [] => cursor
  | c :: rest =>
    if isBreak c && !(c == '\r' && rest.head? == some '\n') then
      ⟨rest, cursor.index + 1, cursor.line + 1, 0⟩
    else if c = '\uFEFF' then ⟨rest, cursor.index + 1, cursor.line, cursor.column⟩
    else ⟨rest, cursor.index + 1, cursor.line, cursor.column + 1⟩

def advance : Nat → Cursor → Cursor
  | 0, cursor => cursor
  | count + 1, cursor => advance count cursor.next

/-- The characters up to the first that does not satisfy `p`, and the place after them. -/
def takeWhile (cursor : Cursor) (p : Char → Bool) : List Char × Cursor :=
  let chars := cursor.rest.takeWhile p
  (chars, cursor.advance chars.length)

/-- The place of the first character that does not satisfy `p`. -/
def skipWhile (cursor : Cursor) (p : Char → Bool) : Cursor := (cursor.takeWhile p).2

/-- The line break at the front as it counts, nothing if there is none, and the place after it. -/
def lineBreak (cursor : Cursor) : List Char × Cursor :=
  match cursor.rest with
  | '\r' :: '\n' :: _ => (['\n'], cursor.advance 2)
  | c :: _ =>
    if c = '\u2028' ∨ c = '\u2029' then ([c], cursor.next)
    else if isBreak c then (['\n'], cursor.next)
    else ([], cursor)
  | [] => ([], cursor)

/-- Three times the same character stand at the front, and nothing follows them directly. -/
def atMark (cursor : Cursor) (c : Char) : Bool :=
  cursor.rest.take 3 == [c, c, c] && isGap (cursor.ahead 3)

/-- A mark that separates documents stands at the front. -/
def atDocumentMark (cursor : Cursor) : Bool := cursor.atMark '-' || cursor.atMark '.'

/-- How many characters are to come, and one more: no loop over them takes more steps. -/
def patience (cursor : Cursor) : Nat := cursor.rest.length + 1

end Cursor

end LineScript.Yaml
