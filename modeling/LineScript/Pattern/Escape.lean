import LineScript.Numeral.Integer
import LineScript.Pattern.Reading

/-!
# Escapes in patterns
A backslash and the character after it, with digits or a name that belong to it. What an escape
means depends on whether it stands in a set of characters or outside.
-/
namespace LineScript.Pattern

/-- What an escape means. -/
inductive Escape where
  | code (value : Nat)
  | class (kind : CharClass) (negated : Bool)
  | textStart
  | textEnd
  | wordEdge (negated : Bool)
  | reference (group : Nat)

/-- Characters that an escape names by a letter. -/
def controlEscape? : Char → Option Nat
  | 'a' => some 0x07
  | 'f' => some 0x0c
  | 'n' => some 0x0a
  | 'r' => some 0x0d
  | 't' => some 0x09
  | 'v' => some 0x0b
  | '\\' => some 0x5c
  | _ => none

/-- Classes that an escape names by a letter. -/
def classEscape? : Char → Option Escape
  | 'd' => some (.class .digit false)
  | 'D' => some (.class .digit true)
  | 's' => some (.class .space false)
  | 'S' => some (.class .space true)
  | 'w' => some (.class .word false)
  | 'W' => some (.class .word true)
  | _ => none

/-- Anchors that an escape names by a letter. -/
def anchorEscape? : Char → Option Escape
  | 'A' => some .textStart
  | 'Z' => some .textEnd
  | 'b' => some (.wordEdge false)
  | 'B' => some (.wordEdge true)
  | _ => none

def isOctal (c : Char) : Bool := '0' ≤ c && c ≤ '7'

def isHex (c : Char) : Bool := c.isDigit || ('a' ≤ c && c ≤ 'f') || ('A' ≤ c && c ≤ 'F')

def hexValue (c : Char) : Nat :=
  if c.isDigit then c.toNat - 0x30 else c.toLower.toNat - 0x61 + 10

/-- The number that digits write in a base. -/
def numberIn (base : Nat) (digits : List Char) : Nat :=
  digits.foldl (fun n digit => n * base + hexValue digit) 0

/-- One more than the last code point. -/
def codeLimit : Nat := 0x110000

/-- Numbers from here on are not even asked for as code points. -/
def codeOverflow : Nat := 0x80000000

/-- A code point in exactly `count` hexadecimal digits. -/
def readHexEscape (letter : Char) (count : Nat) : Reader Escape := do
  let digits ← takeWhile isHex count
  let text := '\\' :: letter :: digits
  if digits.length < count then
    failBack (.incompleteEscape (String.ofList text)) text.length
  else
    let value := numberIn 16 digits
    if codeOverflow ≤ value then throw .codeTooLarge
    else if codeLimit ≤ value then failBack (.badEscape (String.ofList text)) text.length
    else return .code value

/-- A character by its name in braces. -/
def readNameEscape : Reader Escape := do
  if ← accept '{' then
    let name ← takeName '}' "character name"
    match (← get).character name with
    | some value => return .code value
    | none => failBack (.unknownCharacter name) (name.length + 4)
  else failBack .missingBrace 0

/-- Escapes by a letter with digits or a name after it, the same in sets and outside. -/
def readCodeEscape? (c : Char) : Option (Reader Escape) :=
  if c = 'x' then some (readHexEscape c 2)
  else if c = 'u' then some (readHexEscape c 4)
  else if c = 'U' then some (readHexEscape c 8)
  else if c = 'N' then some readNameEscape
  else none

/-- Octal numbers beyond one byte are refused. -/
def octalEscape (digits : List Char) : Reader Escape := do
  let value := numberIn 8 digits
  if 0xff < value then
    failBack (.octalTooLarge (String.ofList ('\\' :: digits))) (digits.length + 1)
  else return .code value

/-- A character after a backslash that has no meaning of its own: letters are refused. -/
def plainEscape (c : Char) : Reader Escape := do
  if c.isAlpha then failBack (.badEscape (String.ofList ['\\', c])) 2 else return .code c.toNat

/-- The escape with the character `c` in a set. -/
def readSetEscape (c : Char) : Reader Escape := do
  if c = 'b' then return .code 0x08
  else match controlEscape? c, classEscape? c, readCodeEscape? c with
    | some value, _, _ => return .code value
    | _, some escape, _ => return escape
    | _, _, some read => read
    | _, _, _ =>
      if isOctal c then octalEscape (c :: (← takeWhile isOctal 2))
      else if c.isDigit then failBack (.badEscape (String.ofList ['\\', c])) 2
      else plainEscape c

/-- A reference to a group by its number; the group must be closed, and within a look behind it
must have been closed before. -/
def readReference (digits : List Char) : Reader Escape := do
  let r ← get
  let group := numberIn 10 digits
  if r.groups ≤ group then failBack (.invalidReference group) digits.length
  else if (r.closedWidth? group).isNone then failBack .openGroup (digits.length + 1)
  else match r.behind with
    | some groups =>
      if groups ≤ group then failBack .sameLookbehind 0 else return .reference group
    | none => return .reference group

/-- A digit that is not zero begins an octal number if two more octal digits follow, and else a
reference to a group of at most two digits. -/
def readDigitEscape (c : Char) : Reader Escape := do
  match ← peek with
  | some [d] =>
    if d.isDigit then
      advance
      match ← peek with
      | some [e] =>
        if isOctal c && isOctal d && isOctal e then
          advance
          octalEscape [c, d, e]
        else readReference [c, d]
      | _ => readReference [c, d]
    else readReference [c]
  | _ => readReference [c]

/-- The escape with the character `c` outside sets. -/
def readEscape (c : Char) : Reader Escape := do
  match anchorEscape? c, classEscape? c, controlEscape? c, readCodeEscape? c with
  | some escape, _, _, _ => return escape
  | _, some escape, _, _ => return escape
  | _, _, some value, _ => return .code value
  | _, _, _, some read => read
  | _, _, _, _ =>
    if c = '0' then return .code (numberIn 8 (← takeWhile isOctal 2))
    else if c.isDigit then readDigitEscape c
    else plainEscape c

end LineScript.Pattern
