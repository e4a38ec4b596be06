import LineScript.Machine
import LineScript.Settings
import LineScript.Text.Lines

/-!
# Files of settings
The settings are in the file that is asked for, or else in the one that a variable of the
environment names, or else in one in the home directory if it is there. Without any of them they are
what they are for those who set nothing.
-/
namespace LineScript

def settingsVariable : String := "GSCRIPT_CONFIG"

def homeSettings : String := "~/.gscript.yaml"

namespace Machine

/-- The tidy form of a path. A tilde at its front has to stand for a home. -/
def locate (machine : Machine) (path : String) : Except Fault String := do
  let path := Path.tidy path
  match Path.tildeName path.toList with
  | none => return path
  | some (name, rest) =>
    let home ← machine.expandHome ("~" ++ String.ofList name)
    if home.toList.head? = some '~' then throw .noHome
    else return Path.tidy (Path.join home (String.ofList (rest.drop 1)))

/-- Something stands at the path. Refusals count as an absence where they mean that nothing can
stand there. -/
def holds (machine : Machine) (path : String) : Except Fault Bool :=
  if Files.Store.hasNul path then .ok false
  else match machine.store.stat path with
    | .ok _ => .ok true
    | .error .noEntry => .ok false
    | .error .notDirectory => .ok false
    | .error .tooManyLinks => .ok false
    | .error refusal => .error (.refused refusal [path])

/-- The text of a file in which every byte has to be part of a character. -/
def readStrict (machine : Machine) (path : String) : Except Fault (List Char) :=
  match machine.store.readFile path with
  | .error refusal => .error (.refused refusal [path])
  | .ok bytes => match Text.Utf8.read bytes with
    | .error defect => .error (.decoding defect)
    | .ok chars => .ok (Text.unifyLineEnds chars)

end Machine

namespace Settings

/-- The settings in a text, by the value that it is read as. -/
def ofText (document : List Char → Except DocumentDefect (Option Value)) (path : String)
    (text : List Char) : Except Fault Settings :=
  match document text with
  | .error .malformed => .error (.settings (.malformed path))
  | .error (.worthless fault) => .error fault
  | .ok none => ofEntries path []
  | .ok (some (.scalar .null)) => ofEntries path []
  | .ok (some (.map entries)) => ofEntries path entries
  | .ok (some _) => .error (.settings (.notMapping path))

/-- The file of settings that a path names. It has to be there; `origin` says where the path is
from. -/
def requireFile (machine : Machine) (path origin : String) : Except Fault String := do
  let path ← machine.locate path
  if ← machine.holds path then return path
  else throw (.system (.worded 2 ("Config file not found: " ++ path ++ origin)))

/-- The file that the settings are in, if there is one. -/
def file? (machine : Machine) (asked : Option String) : Except Fault (Option String) := do
  let asked := asked.filter (!·.isEmpty)
  let named := (machine.environ.find? settingsVariable).filter (!·.isEmpty)
  match asked, named with
  | some path, _ => some <$> requireFile machine path ""
  | none, some path => some <$> requireFile machine path (" (from $" ++ settingsVariable ++ ")")
  | none, none =>
    let path ← machine.locate homeSettings
    return if ← machine.holds path then some path else none

/-- The settings that count, a file being asked for or not. -/
def load (machine : Machine) (asked : Option String) : Except Fault Settings := do
  match ← file? machine asked with
  | none => return default
  | some path => ofText machine.platform.document path (← machine.readStrict path)

end Settings

end LineScript
