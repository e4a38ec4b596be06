/-!
# Refusals
Why the system refuses an operation: its number and its words.
-/
namespace LineScript.Files

/-- Why the system refuses an operation. -/
inductive Refusal where
  | noEntry
  | execFormat
  | denied
  | busy
  | entryExists
  | notDirectory
  | isDirectory
  | invalid
  | programBusy
  | nameTooLong
  | notEmpty
  | tooManyLinks
  deriving DecidableEq, Repr

def Refusal.number : Refusal → Nat
  | .noEntry => 2
  | .execFormat => 8
  | .denied => 13
  | .busy => 16
  | .entryExists => 17
  | .notDirectory => 20
  | .isDirectory => 21
  | .invalid => 22
  | .programBusy => 26
  | .nameTooLong => 36
  | .notEmpty => 39
  | .tooManyLinks => 40

def Refusal.reason : Refusal → String
  | .noEntry => "No such file or directory"
  | .execFormat => "Exec format error"
  | .denied => "Permission denied"
  | .busy => "Device or resource busy"
  | .entryExists => "File exists"
  | .notDirectory => "Not a directory"
  | .isDirectory => "Is a directory"
  | .invalid => "Invalid argument"
  | .programBusy => "Text file busy"
  | .nameTooLong => "File name too long"
  | .notEmpty => "Directory not empty"
  | .tooManyLinks => "Too many levels of symbolic links"

end LineScript.Files
