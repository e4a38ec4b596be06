/-!
# Terminal escape sequences
An escape sequence is the escape character, an opening bracket, any number of digits, semicolons
and question marks, and one letter. Plain output leaves such sequences out.
-/
namespace LineScript.Text

/-- A character between the bracket and the letter of an escape sequence. -/
def isEscapeParameter (c : Char) : Bool := c == ';' || c == '?' || c.isDigit

/-- What follows an escape sequence whose bracket has been read, if the sequence is complete. -/
def afterEscape : List Char → Option (List Char)
  | [] => none
  | c :: rest =>
    if isEscapeParameter c then afterEscape rest
    else if c.isAlpha then some rest
    else none

theorem length_afterEscape {cs rest : List Char} (h : afterEscape cs = some rest) :
    rest.length < cs.length := by
  induction cs with
  | nil => simp [afterEscape] at h
  | cons c cs ih =>
    rw [afterEscape] at h
    split at h
    · exact Nat.lt_succ_of_lt (ih h)
    · split at h
      · cases h; simp
      · cases h

/-- The text without its escape sequences, found in one pass from the left. -/
def stripEscapes : List Char → List Char
  | [] => []
  | '\x1b' :: '[' :: rest =>
    match _h : afterEscape rest with
    | some after => stripEscapes after
    | none => '\x1b' :: stripEscapes ('[' :: rest)
  | c :: rest => c :: stripEscapes rest
termination_by cs => cs.length
decreasing_by
  · have := length_afterEscape _h
    simp only [List.length_cons]
    omega
  · simp
  · simp

def plain (text : String) : String := String.ofList (stripEscapes text.toList)

end LineScript.Text
