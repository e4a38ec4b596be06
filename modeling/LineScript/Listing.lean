import LineScript.Engine
import LineScript.Text.Blank

/-!
# Listings
The text that tells users about commands and conditions. A listing of names ends at the first name
that is not known; what was listed before it stays.
-/
namespace LineScript

/-- A listing, and the fault that ended it early, if any. -/
abbrev Listing := String × Option Fault

/-- Lists what is told of each name in turn, up to the first fault. -/
def listNames (tell : String → Except Fault String) : List String → Listing
  | [] => ("", none)
  | name :: rest => match tell name with
    | .error fault => ("", some fault)
    | .ok text =>
      let (more, fault) := listNames tell rest
      (text ++ more, fault)

def CommandUsage.text (usage : CommandUsage) (verbose : Bool) (name : String) : String :=
  let head := Text.stripEnd (name ++ " " ++ usage.args) ++ "\n\t" ++ usage.summary ++ "\n"
  if verbose then
    head ++ String.join (usage.detail.map fun line => "\t" ++ line ++ "\n") ++
      (if usage.isAsync then
        "\tThis command runs asynchronously and may be used with '&'.\n" else "") ++ "\n"
  else head

/-- What is told of a condition; with a scene, also whether it holds there. -/
def Condition.text (condition : Condition) (scene : Option Scene) (name : String) :
    Except Fault String := do
  let summary := "\n\t" ++ condition.usage.summary
  if condition.usage.takesSuffix then return "[" ++ name ++ ":*]" ++ summary ++ "\n"
  else match scene with
    | none => return "[" ++ name ++ "]" ++ summary ++ "\n"
    | some scene =>
      let holds ← condition.holds scene ""
      return "[" ++ name ++ "]" ++ summary ++ (if holds then " (true)\n" else " (false)\n")

namespace Manual

/-- The named ones of all names, or all in order when none is named. -/
def chosen {α : Type} (table : Table α) (names : List String) : List String :=
  if names.isEmpty then sortedNames table.names else names

def listCommands (manual : Manual) (verbose : Bool) (names : List String) : Listing :=
  listNames (fun name => match manual.commands.find? name with
    | some usage => .ok (usage.text verbose name)
    | none => .error (.usage (.unknownCommand name))) (chosen manual.commands names)

def listConditions (manual : Manual) (scene : Option Scene) (names : List String) : Listing :=
  listNames (fun name => match manual.conditions.find? name with
    | some condition => condition.text scene name
    | none => .error (.usage (.unknownCondition name))) (chosen manual.conditions names)

/-- The help text: commands, and all conditions when no command is named. -/
def help (manual : Manual) (scene : Scene) (verbose : Bool) (names : List String) :
    Except Fault String :=
  match manual.listCommands verbose names with
  | (_, some fault) => .error fault
  | (commands, none) =>
    if names.isEmpty then
      match manual.listConditions (some scene) [] with
      | (_, some fault) => .error fault
      | (conditions, none) => .ok (commands ++ "\nconditions:\n\n" ++ conditions)
    else .ok commands

end Manual

end LineScript
