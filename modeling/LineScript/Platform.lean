import LineScript.Options
import LineScript.Process
import LineScript.Value

/-!
# Platforms
What the program takes from others as it comes: the users that the system knows and what its
programs do, the names of characters, and how documents and command lines are read.
-/
namespace LineScript

/-- Where the users are at home that the system knows. No home has a NUL in its path. -/
structure Users where
  homeOf : String → Option String
  /-- The home of the one who runs the program. -/
  own : Option String
  plain : ∀ home, own = some home ∨ (∃ name, homeOf name = some home) → '\x00' ∉ home.toList

def Users.empty : Users := ⟨fun _ => none, none, by simp⟩

/-- Why a document cannot be read: it is malformed, or holds something that has no value. -/
inductive DocumentDefect where
  | malformed
  | worthless (fault : Fault)

/-- What the program takes from others. -/
class Platform where
  users : Users
  /-- The code point of a character, by the name. -/
  character : String → Option Nat
  run : Process.Runner
  /-- The value that a document holds; an empty document holds none. -/
  document : List Char → Except DocumentDefect (Option Value)
  /-- What the words of a command line ask for, if they are understood. -/
  options : List String → Option Options

/-- A platform that has nothing to give. -/
@[reducible] def Platform.empty : Platform where
  users := .empty
  character _ := none
  run _ request := .error (.ofRefusal .noEntry [request.program])
  document _ := .error .malformed
  options _ := none

end LineScript
