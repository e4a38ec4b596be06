import LineScript.Environment
import LineScript.Fault
import LineScript.Files.Change
import LineScript.Path

/-!
# Processes
A program is looked up and started in a working directory with an environment. What it does from
there to its end is up to the system.
-/
namespace LineScript.Process

/-- What to start: the path of the program, its arguments, the working directory and the
environment. -/
structure Request where
  program : String
  arguments : List String
  workdir : String
  environ : Environment

/-- What a program wrote, and its status, or the negated number of the signal that ended it. -/
structure Finished where
  stdout : List UInt8
  stderr : List UInt8
  status : Int

def searchPath (paths : String) : List String := paths.splitOn ":"

/-- A file that can be run stands at the path. -/
def isProgram (store : Files.Store) (path : String) : Bool :=
  store.isExecutable path && !store.isDirectory path

/-- Finds a program in the directories of a list of paths. A name with a slash is looked up as it
is. -/
def find? (store : Files.Store) (paths name : String) : Option String :=
  if name.toList.contains '/' then if isProgram store name then some name else none
  else if paths.isEmpty then none
  else ((searchPath paths).map fun directory => Path.join directory name).find? (isProgram store)

/-- How programs are run to their ends among files, unless the system refuses to. -/
abbrev Runner := Files.Store → Request → Except SystemFault (Files.Store × Finished)

/-- Runs a program to its end. No path, argument or value of the environment can hold a NUL. -/
def start (run : Runner) (store : Files.Store) (request : Request) :
    Except Fault (Files.Store × Finished) :=
  let texts := request.program :: request.workdir :: request.arguments ++
    request.environ.toEntries
  if texts.any Files.Store.hasNul then .error (.value .embeddedNul)
  else match run store request with
    | .ok result => .ok result
    | .error fault => .error (.system fault)

end LineScript.Process
