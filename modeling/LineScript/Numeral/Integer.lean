import LineScript.Text.Blank
import LineScript.Text.Digit

/-!
# Integers in text
A sign, then decimal digits of any script, in which single underscores may stand between digits.
Blanks around them are ignored. A text with too many digits is refused.
-/
namespace LineScript.Numeral

/-- The longest number of digits that is read. -/
def maxDigits : Nat := 4300

/-- Blanks that may surround an integer: those of plain text, and every blank outside it. -/
def isIntegerBlank (c : Char) : Bool :=
  (Text.isBlank c && c.toNat > 0x7f) || c == ' ' || (0x09 ≤ c.toNat && c.toNat ≤ 0x0d)

/-- The digits of a number, with single underscores allowed between two of them. -/
def readDigits : List Char → Option (List Nat)
  | [] => none
  | [c] => (Text.digitValue? c).map ([·])
  | c :: '_' :: rest => do
    let digit ← Text.digitValue? c
    let digits ← readDigits rest
    pure (digit :: digits)
  | c :: rest => do
    let digit ← Text.digitValue? c
    let digits ← readDigits rest
    pure (digit :: digits)

def ofDigits (digits : List Nat) : Nat := digits.foldl (fun n digit => n * 10 + digit) 0

/-- The integer that a text writes, if it writes one. -/
def readInteger? (text : String) : Option Int := do
  let cs := Text.dropEndWhile isIntegerBlank (text.toList.dropWhile isIntegerBlank)
  let (negative, body) := match cs with
    | '-' :: rest => (true, rest)
    | '+' :: rest => (false, rest)
    | _ => (false, cs)
  let digits ← readDigits body
  if digits.length > maxDigits then none
  else
    let n : Int := ofDigits digits
    some (if negative then -n else n)

end LineScript.Numeral
