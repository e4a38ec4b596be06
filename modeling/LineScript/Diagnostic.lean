/-!
# Diagnostics
Notes about a run for the one who runs the program, apart from what the script writes.
-/
namespace LineScript

/-- How serious a note is. -/
inductive Severity where
  | debug
  | info
  | warning
  | error
  deriving DecidableEq, Repr

def Severity.word : Severity → String
  | .debug => "DEBUG"
  | .info => "INFO"
  | .warning => "WARNING"
  | .error => "ERROR"

/-- The note is shown even to those who do not ask for details. -/
def Severity.isShown : Severity → Bool
  | .debug => false
  | .info => false
  | .warning => true
  | .error => true

/-- The parts of the program that make notes. -/
inductive Origin where
  | engine
  | extensions
  | runner
  deriving DecidableEq, Repr

/-- The name that a part of the program signs its notes with. -/
def Origin.name : Origin → String
  | .engine => "gscript.engine.engine"
  | .extensions => "gscript.extensions"
  | .runner => "gscript.runner"

/-- A note, with the part of the program that it comes from. -/
structure Diagnostic where
  severity : Severity
  origin : Origin
  message : String
  deriving DecidableEq, Repr

def Diagnostic.line (note : Diagnostic) : String :=
  note.severity.word ++ " " ++ note.origin.name ++ ": " ++ note.message ++ "\n"

end LineScript
