import LineScript.Builtin.Conditions
import LineScript.Builtin.Searching

/-!
# The tables of an engine
The commands that every engine knows, and what scripts get on top of them.
-/
namespace LineScript.Builtin

/-- How a command is called that has no details to tell. -/
def brief (summary args : String) : CommandUsage := ⟨summary, args, [], false⟩

def execUsage : CommandUsage :=
  ⟨"run an executable program with arguments", "program [args...]",
    ["Note that 'exec' does not terminate the script (unlike Unix shells)."], true⟩

def execCommand : Command := changing execUsage exec

/-- The commands that every engine knows. -/
def commands : Table Command := ⟨[
  ("cat", looking (brief "concatenate files and print to the script's stdout buffer" "files...")
    cat),
  ("cd", changing (brief "change the working directory" "dir") cd),
  ("cp", filing ⟨"copy files to a target file or directory", "src... dst",
    ["src can include 'stdout' or 'stderr' to copy the last command's output."], false⟩ cp),
  ("echo", looking (brief "display a line of text" "string...") echo),
  ("env", changing ⟨"set or log the values of environment variables", "[key[=value]...]",
    ["With no arguments, print the script environment to the log."], false⟩ env),
  ("exec", execCommand),
  ("exists", looking (brief "check that files exist" "[-readonly] [-exec] file...") exists?),
  ("grep", looking (brief "find lines in a file that match a pattern"
    "[-count=N] [-q] 'pattern' file") grep),
  ("help", looking (brief "log help text for commands and conditions" "[-v] name...") help),
  ("mkdir", filing (brief "create directories, if they do not already exist" "path...") mkdir),
  ("mv", filing (brief "rename a file or directory to a new path" "old new") mv),
  ("pwd", looking (brief "print the current working directory" "") pwd),
  ("rm", filing ⟨"remove a file or directory", "path...",
    ["Directories are removed recursively."], false⟩ rm),
  ("sleep", looking ⟨"sleep for a specified duration", "duration", [], true⟩ sleep),
  ("stderr", looking (brief "find lines in the stderr buffer that match a pattern"
    "[-count=N] [-q] 'pattern'") searchStderr),
  ("stdout", looking (brief "find lines in the stdout buffer that match a pattern"
    "[-count=N] [-q] 'pattern'") searchStdout),
  ("stop", looking ⟨"stop execution of the script", "[msg]",
    ["The script exits successfully."], false⟩ stop),
  ("wait", looking (brief "wait for completion of background commands" "") wait)]⟩

end LineScript.Builtin

namespace LineScript.Engine

/-- The engine that knows the commands and conditions of every engine. -/
def standard : Engine := ⟨Builtin.commands, Builtin.conditions⟩

/-- The engine with `execx` and the conditions on files and variables, named in the given way. -/
def extend (engine : Engine) (naming : Builtin.Naming) : Engine where
  commands := engine.commands.insert "execx" <| Builtin.expanding "execx" <|
    (engine.commands.find? "exec").getD Builtin.execCommand
  conditions := (engine.conditions.insert naming.file
    (Builtin.onSuffix "<suffix> is a file that exists" Builtin.fileExists)).insert naming.env
    (Builtin.onSuffix "<suffix> is an environment variable that is set and non-blank"
      Builtin.isSet)

/-- The engine extended with the naming that a text asks for. -/
def extendNamed (engine : Engine) (naming : String) : Except Fault Engine :=
  match Builtin.Naming.read? naming with
  | some naming => .ok (engine.extend naming)
  | none => .error (.value (.unknownNaming naming))

end LineScript.Engine
