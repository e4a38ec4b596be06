import LineScript.Text.Blank
import LineScript.Script.Word

/-!
# Guards
A guard such as `[!exec:git]` stands before a command and names a condition, with a suffix after
a colon for conditions that take one; an exclamation mark negates it.
-/
namespace LineScript.Script

/-- A condition that gates a command. -/
structure Guard where
  name : String
  suffix : String
  negated : Bool
  hasSuffix : Bool
  deriving DecidableEq, Repr

namespace Guard

/-- What stands between the brackets of a guard. -/
def body (guard : Guard) : String :=
  (if guard.negated then "!" else "") ++ guard.name ++
    (if guard.hasSuffix then ":" ++ guard.suffix else "")

/-- The guard as it is written in a line. -/
def print (guard : Guard) : String := "[" ++ guard.body ++ "]"

/-- Reads the characters between brackets once they are stripped and the mark is gone. -/
def ofChars? (negated : Bool) (cs : List Char) : Option Guard :=
  let name := cs.takeWhile (· != ':')
  if name.isEmpty then none
  else some {
    name := String.ofList name
    suffix := String.ofList ((cs.dropWhile (· != ':')).drop 1)
    negated := negated
    hasSuffix := cs.contains ':' }

/-- Reads stripped characters between brackets, of which an exclamation mark may be the first. -/
def ofBody? : List Char → Option Guard
  | '!' :: rest => ofChars? true (Text.stripChars rest)
  | body => ofChars? false body

/-- Reads what stands between the brackets of a guard. -/
def parse (text : String) : Except SyntaxFault Guard :=
  match ofBody? (Text.stripChars text.toList) with
  | some guard => .ok guard
  | none => .error (.emptyGuard text)

end Guard

end LineScript.Script
