import LineScript.Yaml.Block
import LineScript.Yaml.Quoted

/-!
# Directives, names and tags
The marks in a document that carry a name: directives in front of it, anchors and links to them,
and tags that say of which kind a value is.
-/
namespace LineScript.Yaml

/-- A character of a name. -/
def isMarkChar (c : Char) : Bool := c.isAlphanum || c == '-' || c == '_'

def markName (cursor : Cursor) : Except Defect (String × Cursor) :=
  let (name, cursor) := cursor.takeWhile isMarkChar
  if name.isEmpty then .error .malformed else .ok (String.ofList name, cursor)

/-- The name behind the mark of an anchor or a link. -/
def linkName (cursor : Cursor) : Except Defect (String × Cursor) := do
  let (name, cursor) ← markName cursor.next
  let c := cursor.front
  if isGap c || "?:,]\x7d%@`".toList.contains c then return (name, cursor) else throw .malformed

/-- A character of a tag that stands for itself. -/
def isTagChar (c : Char) : Bool := c.isAlphanum || "-;/?:@&=+$,_.!~*'()[]".toList.contains c

/-- The bytes that percent signs write, each with two hexadecimal digits. -/
def percentBytes (done : List UInt8) : Nat → Cursor → Except Defect (List UInt8 × Cursor)
  | 0, cursor => .ok (done, cursor)
  | fuel + 1, cursor =>
    if cursor.front = '%' then
      match hexValue? (cursor.ahead 1), hexValue? (cursor.ahead 2) with
      | some high, some low =>
        percentBytes (done ++ [UInt8.ofNat (high * 16 + low)]) fuel (cursor.advance 3)
      | _, _ => .error .malformed
    else .ok (done, cursor)

/-- The characters of a tag at the front. -/
def tagChars (done : List Char) : Nat → Cursor → Except Defect (List Char × Cursor)
  | 0, cursor => .ok (done, cursor)
  | fuel + 1, cursor => do
    if cursor.front = '%' then
      let (bytes, cursor) ← percentBytes [] cursor.patience cursor
      match Text.Utf8.read bytes with
      | .ok chars => tagChars (done ++ chars) fuel cursor
      | .error _ => throw .malformed
    else
      let (chars, after) := cursor.takeWhile isTagChar
      if chars.isEmpty then return (done, cursor) else tagChars (done ++ chars) fuel after

/-- What a tag or the base of a handle is made of; it is not empty. -/
def tagText (cursor : Cursor) : Except Defect (String × Cursor) := do
  let (chars, cursor) ← tagChars [] cursor.patience cursor
  if chars.isEmpty then throw .malformed else return (String.ofList chars, cursor)

/-- The handle at the front: an exclamation mark alone, or a name between two of them. -/
def tagHandle (cursor : Cursor) : Except Defect (String × Cursor) :=
  if cursor.front ≠ '!' then .error .malformed
  else if cursor.ahead 1 = ' ' then .ok ("!", cursor.next)
  else
    let (name, cursor) := cursor.next.takeWhile isMarkChar
    if cursor.front = '!' then .ok ("!" ++ String.ofList name ++ "!", cursor.next)
    else .error .malformed

/-- The tag at the front: its handle, if it has one, and what comes after that. -/
def readTag (cursor : Cursor) : Except Defect ((Option String × String) × Cursor) := do
  let (tag, cursor) ←
    if cursor.ahead 1 = '<' then do
      let (text, cursor) ← tagText (cursor.advance 2)
      if cursor.front ≠ '>' then throw .malformed
      else pure ((none, text), cursor.next)
    else if isGap (cursor.ahead 1) then pure ((none, "!"), cursor.next)
    else do
      let word := (cursor.rest.drop 1).takeWhile (!isSpaceOrEnd ·)
      let (handle, cursor) ←
        if word.contains '!' then tagHandle cursor else pure ("!", cursor.next)
      let (text, cursor) ← tagText cursor
      pure ((some handle, text), cursor)
  if isSpaceOrEnd cursor.front then return (tag, cursor) else throw .malformed

def versionNumber (cursor : Cursor) : Except Defect (Nat × Cursor) :=
  let (digits, cursor) := cursor.takeWhile Char.isDigit
  if digits.isEmpty then .error .malformed
  else .ok (digits.foldl (fun n digit => n * 10 + (digit.toNat - 0x30)) 0, cursor)

/-- What a directive with a name directs. -/
def directiveBody (name : String) (cursor : Cursor) : Except Defect (Directive × Cursor) := do
  let cursor := cursor.skipWhile (· == ' ')
  if name = "YAML" then
    let (major, cursor) ← versionNumber cursor
    if cursor.front ≠ '.' then throw .malformed
    else
      let (_, cursor) ← versionNumber cursor.next
      if isSpaceOrEnd cursor.front then return (.version major, cursor) else throw .malformed
  else if name = "TAG" then
    let (handle, cursor) ← tagHandle cursor
    if cursor.front ≠ ' ' then throw .malformed
    else
      let (base, cursor) ← tagText (cursor.skipWhile (· == ' '))
      if isSpaceOrEnd cursor.front then return (.handle handle base, cursor) else throw .malformed
  else return (.other, cursor.skipWhile (!endsLine ·))

def readDirective (cursor : Cursor) : Except Defect (Directive × Cursor) := do
  let (name, cursor) ← markName cursor.next
  if !isSpaceOrEnd cursor.front then throw .malformed
  else
    let (directive, cursor) ← directiveBody name cursor
    return (directive, ← endOfLine cursor)

end LineScript.Yaml
