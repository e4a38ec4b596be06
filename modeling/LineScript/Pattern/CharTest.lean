import LineScript.Text.Blank
import LineScript.Text.Digit
import LineScript.Text.LetterCase
import LineScript.Text.WordChar

/-!
# Tests on one character
A test lists members: single code points, ranges and classes. It holds of a character when a
member covers it, or, if the test is negated, when none does. Where case is ignored the character
is compared by its lower-case form.
-/
namespace LineScript.Pattern

/-- How far letter case is ignored. -/
inductive Fold where
  | exact
  | ascii
  | unicode
  deriving DecidableEq, Repr

/-- The form by which characters are compared. -/
def Fold.lower : Fold → Char → Char
  | .exact, c => c
  | .ascii, c => c.toLower
  | .unicode, c => Text.lowerCase c

/-- The characters whose membership decides that of a lower-case character. -/
def Fold.origins : Fold → Char → List Char
  | .exact, c => [c]
  | .ascii, c => [c, c.toUpper]
  | .unicode, c =>
    (Text.equalsIgnoringCase c).flatMap fun other => other :: Text.raisedForms other

/-- Classes of characters. -/
inductive CharClass where
  | digit
  | space
  | word
  deriving DecidableEq, Repr

/-- Membership in a class, for all characters or for those of plain text alone. -/
def CharClass.contains (ascii : Bool) : CharClass → Char → Bool
  | .digit, c => if ascii then c.isDigit else Text.isDigit c
  | .space, c => if ascii then c == ' ' || (0x09 ≤ c.toNat && c.toNat ≤ 0x0d) else Text.isBlank c
  | .word, c => if ascii then c.isAlphanum || c == '_' else Text.isWordChar c

/-- Members of a test. Code points that are no characters are allowed and cover nothing. -/
inductive Member where
  | code (value : Nat)
  | range (first last : Nat)
  | class (kind : CharClass) (negated ascii : Bool)
  deriving DecidableEq, Repr

/-- The first code point that is compared without regard to how case is ignored. -/
def supplementary : Nat := 0x10000

/-- The member covers a character that stands in its compared form. -/
def Member.covers (fold : Fold) (c : Char) : Member → Bool
  | .code value =>
    if supplementary ≤ value then c.toNat == value
    else (fold.origins c).any fun origin => origin.toNat == value
  | .range first last =>
    (fold.origins c).any fun origin => first ≤ origin.toNat && origin.toNat ≤ last
  | .class kind negated ascii => kind.contains ascii c != negated

/-- A test on one character. -/
structure CharTest where
  negated : Bool
  members : List Member
  fold : Fold
  deriving DecidableEq, Repr

def CharTest.holds (test : CharTest) (c : Char) : Bool :=
  test.members.any (Member.covers test.fold (test.fold.lower c)) != test.negated

/-- The test for one code point. -/
def CharTest.only (negated : Bool) (fold : Fold) (value : Nat) : CharTest :=
  if supplementary ≤ value then ⟨negated, [.code (fold.lower (Char.ofNat value)).toNat], fold⟩
  else ⟨negated, [.code value], fold⟩

/-- The test for any character, line feeds among them only if asked for. -/
def CharTest.anything (lineFeeds : Bool) : CharTest :=
  ⟨true, if lineFeeds then [] else [.code 0x0a], .exact⟩

end LineScript.Pattern
