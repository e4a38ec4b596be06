import LineScript.Fault
import LineScript.Table

/-!
# Environments
An environment gives names their values, in the order in which the names were first set. A text
refers to a value by `$NAME` or `${NAME}`; references are replaced in one pass from the left, and
what replaces them is not looked at again.
-/
namespace LineScript

/-- The values of names. -/
abbrev Environment := Table String

/-- A character of a name that stands without braces. -/
def isNameChar (c : Char) : Bool := c.isAlphanum || c == '_'

/-- The name in a reference whose dollar sign has been read, and what follows the reference. -/
def reference? : List Char → Option (List Char × List Char)
  | [] => none
  | c :: rest =>
    if c = '{' then
      match rest.dropWhile (· != '}') with
      | [] => none
      | _ :: after => some (rest.takeWhile (· != '}'), after)
    else if isNameChar c then some (c :: rest.takeWhile isNameChar, rest.dropWhile isNameChar)
    else none

theorem suffix_reference? {cs name after : List Char} (found : reference? cs = some (name, after)) :
    after <:+ cs := by
  cases cs with
  | nil => cases found
  | cons c rest =>
    refine List.IsSuffix.trans ?_ (List.suffix_cons c rest)
    simp only [reference?] at found
    split at found
    · split at found
      · cases found
      · rename_i shape
        cases found
        have braced := List.dropWhile_suffix (l := rest) (· != '}')
        rw [shape] at braced
        exact (List.suffix_cons _ _).trans braced
    · split at found
      · cases found
        exact List.dropWhile_suffix _
      · cases found

theorem length_reference? {cs name after : List Char} (h : reference? cs = some (name, after)) :
    after.length ≤ cs.length := (suffix_reference? h).length_le

/-- Replaces the references in a text; whatever else stands there, a lone dollar sign included,
is kept. -/
def replaceReferences (value : List Char → List Char) : List Char → List Char
  | [] => []
  | c :: rest =>
    if c = '$' then
      match _h : reference? rest with
      | some (name, after) => value name ++ replaceReferences value after
      | none => c :: replaceReferences value rest
    else c :: replaceReferences value rest
termination_by cs => cs.length
decreasing_by
  · have := length_reference? _h
    simp only [List.length_cons]
    omega
  · simp
  · simp

theorem replaceReferences_of_plain (value : List Char → List Char) {cs : List Char}
    (plain : '$' ∉ cs) : replaceReferences value cs = cs := by
  induction cs with
  | nil => rw [replaceReferences]
  | cons c cs ih =>
    obtain ⟨first, rest⟩ := List.ne_and_not_mem_of_not_mem_cons plain
    rw [replaceReferences, if_neg first.symm, ih rest]

namespace Environment

/-- The value of a name, empty if it has none. -/
def value (env : Environment) (name : String) : String := (env.find? name).getD ""

/-- What a reference to a name stands for. The slash and the colon stand for themselves: they
separate the names in a path and the paths in a list. -/
def referent (env : Environment) (name : String) : String :=
  if name = "/" then "/" else if name = ":" then ":" else env.value name

/-- A text with its references replaced. -/
def expand (env : Environment) (text : String) : String :=
  String.ofList
    (replaceReferences (fun name => (env.referent (String.ofList name)).toList) text.toList)

theorem expand_of_plain (env : Environment) {text : String} (plain : '$' ∉ text.toList) :
    env.expand text = text := by
  rw [expand, replaceReferences_of_plain _ plain, String.ofList_toList]

/-- A name that can be set: it is not empty and holds no equals sign. -/
def isName (name : String) : Bool := !name.isEmpty && !name.toList.contains '='

/-- An entry as it is written: the name, an equals sign and the value. -/
def printEntry (name value : String) : String := name ++ "=" ++ value

/-- The entries of an environment as they are written. -/
def toEntries (env : Environment) : List String :=
  env.entries.map fun entry => printEntry entry.1 entry.2

/-- A text cut at its first equals sign, if it has one. -/
def splitEntry (entry : String) : String × Option String :=
  let name := String.ofList (entry.toList.takeWhile (· != '='))
  match entry.toList.dropWhile (· != '=') with
  | [] => (name, none)
  | _ :: value => (name, some (String.ofList value))

/-- The name and value that an entry writes. -/
def parseEntry (entry : String) : Except ContextFault (String × String) :=
  match splitEntry entry with
  | (name, some value) =>
    if name.isEmpty then .error (.malformedEntry entry) else .ok (name, value)
  | (_, none) => .error (.malformedEntry entry)

/-- The environment that entries write; later entries win. -/
def ofEntries (entries : List String) : Except ContextFault Environment :=
  (entries.mapM parseEntry).map Table.ofList

/-- Sets a name that can be set. -/
def set (env : Environment) (name value : String) : Except Failure Environment :=
  if isName name then .ok (env.insert name value) else .error (.invalidName name)

end Environment

end LineScript
