/-!
# White space
The blank characters of every script, and texts with the blanks at their ends removed.
-/
namespace LineScript.Text

/-- White space of every script, the separators of files and records included. -/
def isBlank (c : Char) : Bool :=
  let n := c.toNat
  (0x09 ≤ n && n ≤ 0x0d) || (0x1c ≤ n && n ≤ 0x20) || n == 0x85 || n == 0xa0 || n == 0x1680 ||
    (0x2000 ≤ n && n ≤ 0x200a) || n == 0x2028 || n == 0x2029 || n == 0x202f || n == 0x205f ||
    n == 0x3000

/-- The list without the members at its end that satisfy `p`. -/
def dropEndWhile {α : Type} (p : α → Bool) (xs : List α) : List α :=
  (xs.reverse.dropWhile p).reverse

/-- The characters between the blanks at both ends. -/
def stripChars (cs : List Char) : List Char :=
  dropEndWhile isBlank (cs.dropWhile isBlank)

def strip (text : String) : String := String.ofList (stripChars text.toList)

/-- The text without the blanks at its end. -/
def stripEnd (text : String) : String := String.ofList (dropEndWhile isBlank text.toList)

def isBlankText (text : String) : Bool := text.toList.all isBlank

end LineScript.Text
