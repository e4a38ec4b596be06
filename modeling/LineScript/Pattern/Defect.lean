import LineScript.Text.Quoted

/-!
# Defects of patterns
Why a pattern cannot be compiled, and where in it. A defect in a pattern of several lines is also
located by line and column.
-/
namespace LineScript.Pattern

/-- Why a pattern cannot be compiled. -/
inductive Flaw where
  | escapeAtEnd
  | badEscape (escape : String)
  | incompleteEscape (escape : String)
  | octalTooLarge (escape : String)
  | missingBrace
  | unknownCharacter (name : String)
  | openGroup
  | sameLookbehind
  | invalidReference (group : Nat)
  | unterminatedSet
  | badRange (first last : String)
  | minAboveMax
  | nothingToRepeat
  | multipleRepeat
  | endOfPattern
  | unknownExtension (text : String)
  | missingName (what : String)
  | unterminatedName (terminator : Char)
  | badName (name : String)
  | unknownName (name : String)
  | redefinedName (name : String) (group old : Nat)
  | badGroupNumber
  | unterminatedComment
  | unterminatedGroup
  | tooManyBranches
  | unbalancedParenthesis
  | lateFlags
  | localeFlag
  | incompatibleFlags
  | unknownFlag
  | missingFlagsEnd
  | missingFlag
  | missingColon
  | turnedOnGlobal
  | turnedOffGlobal
  | turnedOffKind
  | turnedOnAndOff
  | looksTooFarBehind
  | variableLookbehind
  | templateRepeat (operator : String)

def Flaw.message : Flaw → String
  | .escapeAtEnd => "bad escape (end of pattern)"
  | .badEscape escape => "bad escape " ++ escape
  | .incompleteEscape escape => "incomplete escape " ++ escape
  | .octalTooLarge escape => "octal escape value " ++ escape ++ " outside of range 0-0o377"
  | .missingBrace => "missing \x7b"
  | .unknownCharacter name => "undefined character name " ++ Text.quoted name
  | .openGroup => "cannot refer to an open group"
  | .sameLookbehind => "cannot refer to group defined in the same lookbehind subpattern"
  | .invalidReference group => "invalid group reference " ++ toString group
  | .unterminatedSet => "unterminated character set"
  | .badRange first last => "bad character range " ++ first ++ "-" ++ last
  | .minAboveMax => "min repeat greater than max repeat"
  | .nothingToRepeat => "nothing to repeat"
  | .multipleRepeat => "multiple repeat"
  | .endOfPattern => "unexpected end of pattern"
  | .unknownExtension text => "unknown extension ?" ++ text
  | .missingName what => "missing " ++ what
  | .unterminatedName terminator =>
    "missing " ++ String.ofList [terminator] ++ ", unterminated name"
  | .badName name => "bad character in group name " ++ Text.quoted name
  | .unknownName name => "unknown group name " ++ Text.quoted name
  | .redefinedName name group old =>
    "redefinition of group name " ++ Text.quoted name ++ " as group " ++ toString group ++
      "; was group " ++ toString old
  | .badGroupNumber => "bad group number"
  | .unterminatedComment => "missing ), unterminated comment"
  | .unterminatedGroup => "missing ), unterminated subpattern"
  | .tooManyBranches => "conditional backref with more than two branches"
  | .unbalancedParenthesis => "unbalanced parenthesis"
  | .lateFlags => "global flags not at the start of the expression"
  | .localeFlag => "bad inline flags: cannot use 'L' flag with a str pattern"
  | .incompatibleFlags => "bad inline flags: flags 'a', 'u' and 'L' are incompatible"
  | .unknownFlag => "unknown flag"
  | .missingFlagsEnd => "missing -, : or )"
  | .missingFlag => "missing flag"
  | .missingColon => "missing :"
  | .turnedOnGlobal => "bad inline flags: cannot turn on global flag"
  | .turnedOffGlobal => "bad inline flags: cannot turn off global flag"
  | .turnedOffKind => "bad inline flags: cannot turn off flags 'a', 'u' and 'L'"
  | .turnedOnAndOff => "bad inline flags: flag turned on and off"
  | .looksTooFarBehind => "looks too much behind"
  | .variableLookbehind => "look-behind requires fixed-width pattern"
  | .templateRepeat operator => "internal: unsupported template operator " ++ operator

/-- A flaw of a pattern, and at which of its characters it was found, if at one. -/
structure Defect where
  pattern : List Char
  flaw : Flaw
  position : Option Nat

/-- Where a character stands: its line, and its column counted from one. -/
def lineAndColumn (pattern : List Char) (position : Nat) : Nat × Nat :=
  let before := pattern.take position
  (before.count '\n' + 1, (before.reverse.takeWhile (· != '\n')).length + 1)

def Defect.message (defect : Defect) : String :=
  match defect.position with
  | none => defect.flaw.message
  | some position =>
    let text := defect.flaw.message ++ " at position " ++ toString position
    if defect.pattern.contains '\n' then
      let (line, column) := lineAndColumn defect.pattern position
      text ++ " (line " ++ toString line ++ ", column " ++ toString column ++ ")"
    else text

end LineScript.Pattern
