import LineScript.CommandLine
import LineScript.Files.Standard
import LineScript.Platform.Standard

/-!
# The program
The machine of a real run holds the files of every machine and those under the working directory.
The command line is carried out on it, what comes out is printed, and the files that are no longer
as they were are written back.
-/
namespace LineScript.Program

def helpText : String :=
  "Usage: [OPTIONS] [SCRIPTS]...\n\n" ++
  "Run line-oriented scripts and show their stdout, stderr or execution log.\n\n" ++
  "  -c TEXT              Single command to run\n" ++
  "  -i                   Run stdin line by line (only without scripts and -c)\n" ++
  "  -log, --log          Show output log\n" ++
  "  -stdout, --stdout    Print stdout of the script\n" ++
  "  -stderr, --stderr    Print stderr of the script\n" ++
  "  -config, --config TEXT\n" ++
  "                       Path to config file\n" ++
  "  -v, --verbose        Enable debug logging\n" ++
  "  -help, --help, -h    Show this message and exit.\n"

/-- Adds what stands at an entry of a directory, and below it. Files that name an interpreter in
their first line can be run. -/
partial def load (above : Files.Location) (tree : Files.Tree) (entry : IO.FS.DirEntry) :
    IO Files.Tree := do
  let location := above ++ [entry.fileName]
  match (← entry.path.metadata).type with
  | .dir =>
    let entries ← entry.path.readDir
    entries.foldlM (load location) (tree.insert location .directory)
  | .file =>
    let bytes := (← IO.FS.readBinFile entry.path).toList
    return tree.insert location (.file bytes (bytes.take 2 == [0x23, 0x21]))
  | _ => return tree

/-- The locations on the way down to one. -/
def wayTo (location : Files.Location) : List Files.Location :=
  (List.range location.length).map fun count => location.take (count + 1)

/-- The variables that matter, as far as they are set. -/
def environment : IO Environment :=
  [settingsVariable, "HOME", "PATH"].foldlM (fun env name => do
    match ← IO.getEnv name with
    | some value => return env.insert name value
    | none => return env) Table.empty

def machine : IO Machine := do
  let directory ← IO.currentDir
  let location := Files.locationOf directory.toString
  let tree := (wayTo location).foldl (fun tree place => tree.insert place .directory)
    Files.Tree.standard
  let tree ← (← directory.readDir).foldlM (load location) tree
  return {
    store := ⟨tree, some location⟩
    environ := ← environment
    user := 0
    platform := .standard }

def save (before after : Files.Tree) : IO Unit := do
  for (location, node) in after.entries.mergeSort fun a b => a.1.length ≤ b.1.length do
    if before.find? location ≠ some node then
      let path := "/" ++ "/".intercalate location
      match node with
      | .directory => IO.FS.createDirAll path
      | .file bytes _ => IO.FS.writeBinFile path ⟨bytes.toArray⟩
      | _ => pure ()
  for (location, node) in before.entries.mergeSort fun a b => b.1.length ≤ a.1.length do
    if (after.find? location).isNone then
      let path := "/" ++ "/".intercalate location
      if node.isDirectory then IO.FS.removeDir path else IO.FS.removeFile path

/-- Everything that is still to come from a stream. -/
partial def readAll (stream : IO.FS.Stream) (done : List UInt8) : IO (List UInt8) := do
  let bytes ← stream.read 4096
  if bytes.isEmpty then return done else readAll stream (done ++ bytes.toList)

/-- Standard input, unless there are scripts to run instead. -/
def input (machine : Machine) (words : List String) : IO (List UInt8) := do
  match machine.platform.options words with
  | some options =>
    if (CommandLine.scriptTasks options).isEmpty then readAll (← IO.getStdin) [] else return []
  | none => return []

def print (isVerbose : Bool) (emission : Emission) : IO Unit :=
  match emission with
  | .out text => IO.print text
  | .err text => IO.eprint text
  | .note _ => IO.eprint (Emission.stderr isVerbose [emission])

/-- Carries out a command line, and gives the status of the program. -/
def run (words : List String) : IO UInt8 := do
  let before ← machine
  let bytes ← input before words
  match CommandLine.run before words (← (← IO.getStdin).isTty) bytes with
  | .help =>
    IO.print helpText
    return 0
  | .misused =>
    IO.eprint helpText
    return CommandLine.status CommandLine.misuseCode
  | .ran isVerbose conclusion =>
    (CommandLine.emissions conclusion.events).forM (print isVerbose)
    save before.store.tree conclusion.machine.store.tree
    if let .error fault := conclusion.result then IO.eprintln fault.message
    return conclusion.status

end LineScript.Program

def main (words : List String) : IO UInt32 := do
  return (← LineScript.Program.run words).toUInt32
