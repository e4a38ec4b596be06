import LineScript.Presentation

/-!
# Options
What a command line asks for: scripts to run, and how.
-/
namespace LineScript

/-- What a command line asks for. -/
structure Options where
  scripts : List String
  command : Option String
  isInteractive : Bool
  channels : Channels
  settings : Option String
  isVerbose : Bool
  wantsHelp : Bool
  deriving DecidableEq, Repr

def Options.empty : Options := ⟨[], none, false, ⟨false, false, false⟩, none, false, false⟩

end LineScript
