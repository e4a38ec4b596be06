import LineScript.Pattern.CharTest

/-!
# Flags of patterns
Flags are written as letters at the start of a pattern, or of a group for that group alone. Line
anchors match at every line unless the flag for it is turned off.
-/
namespace LineScript.Pattern

/-- The flags, each with its letter. -/
inductive Flag where
  | ignoreCase
  | locale
  | multiline
  | dotAll
  | verbose
  | ascii
  | template
  | unicode
  deriving DecidableEq, Repr

def Flag.ofChar? : Char → Option Flag
  | 'i' => some .ignoreCase
  | 'L' => some .locale
  | 'm' => some .multiline
  | 's' => some .dotAll
  | 'x' => some .verbose
  | 'a' => some .ascii
  | 't' => some .template
  | 'u' => some .unicode
  | _ => none

/-- The flag chooses the characters that classes and case know; only one such flag can hold. -/
def Flag.isKind : Flag → Bool
  | .locale => true
  | .ascii => true
  | .unicode => true
  | _ => false

/-- The flag holds for whole patterns only. -/
def Flag.isGlobal : Flag → Bool
  | .template => true
  | _ => false

abbrev Flags := List Flag

namespace Flags

/-- The flags that hold before any is written. -/
def initial : Flags := [.multiline]

/-- The flags of a group that turns some on and others off. -/
def change (flags on off : Flags) : Flags :=
  let base := if on.any Flag.isKind then flags.filter (!·.isKind) else flags
  (base ++ on).filter fun flag => !off.contains flag

/-- How case is ignored under the flags. -/
def fold (flags : Flags) : Fold :=
  if flags.contains .ignoreCase then
    if flags.contains .ascii then .ascii else .unicode
  else .exact

end Flags

end LineScript.Pattern
