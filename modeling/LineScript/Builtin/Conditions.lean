import LineScript.Builtin.Programs

/-!
# Conditions
What guards can ask: whether a program can be found, on which system and as which user the script
runs, whether a file exists, and whether a variable is set.
-/
namespace LineScript.Builtin

/-- The system that scripts run on. -/
def platform : String := "linux"

/-- The suffix names a program that can be found. -/
def hasProgram (scene : Scene) (suffix : String) : Except Fault Bool :=
  if suffix.isEmpty then .error (.condition .noProgramName)
  else .ok (Process.find? scene.machine.store (scene.env.value "PATH") suffix).isSome

/-- Something stands at the path that the suffix names. Only when nothing is there does it not
hold; other refusals are faults. -/
def fileExists (scene : Scene) (suffix : String) : Except Fault Bool := do
  if suffix.isEmpty then return false
  else
    let path ← scene.resolve suffix
    if Files.Store.hasNul path then throw (.value .embeddedNul)
    else match scene.machine.store.stat path with
      | .ok _ => return true
      | .error .noEntry => return false
      | .error refusal => throw (.refused refusal [path])

/-- The suffix names a variable with more than blanks in it. -/
def isSet (scene : Scene) (suffix : String) : Except Fault Bool :=
  .ok !Text.isBlankText (scene.env.value suffix)

/-- A condition that takes a suffix. -/
def onSuffix (summary : String) (holds : Scene → String → Except Fault Bool) : Condition :=
  ⟨⟨summary, true⟩, holds⟩

/-- A condition that takes none. -/
def plain (summary : String) (holds : Scene → Bool) : Condition :=
  ⟨⟨summary, false⟩, fun scene _ => .ok (holds scene)⟩

/-- The conditions that every engine knows. -/
def conditions : Table Condition := ⟨[
  ("exec", onSuffix "<suffix> names an executable in the script's PATH" hasProgram),
  ("os", onSuffix "sys.platform starts with <suffix>" fun _ suffix =>
    .ok (suffix.toList.isPrefixOf platform.toList)),
  ("root", plain "the process is running as root" fun scene => scene.machine.user == 0)]⟩

/-- The ways to name the conditions on files and variables. -/
inductive Naming where
  | short
  | descriptive
  deriving DecidableEq, Repr

/-- The way to name conditions that a text asks for. -/
def Naming.read? (text : String) : Option Naming :=
  if text = "short" then some .short
  else if text = "descriptive" then some .descriptive
  else none

/-- The name of the condition on files. -/
def Naming.file : Naming → String
  | .short => "file"
  | .descriptive => "file-exists"

/-- The name of the condition on variables. -/
def Naming.env : Naming → String
  | .short => "env"
  | .descriptive => "env-set"

end LineScript.Builtin
