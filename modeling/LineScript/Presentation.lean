import LineScript.Diagnostic
import LineScript.Fault
import LineScript.Text.Ansi
import LineScript.Text.Lines

/-!
# Presentation
What the one who runs a script gets to see of it. The log stands alone when it is asked for;
otherwise each stream that is asked for goes to the stream of the same name, under a label when
there are two. What is printed ends its line, and carries no escape sequences.
-/
namespace LineScript

/-- Which channels of a run are asked for. -/
structure Channels where
  log : Bool
  stdout : Bool
  stderr : Bool
  deriving DecidableEq, Repr

/-- A text as it is printed: the line feed at its end is added before escape sequences go. -/
def printed (text : String) : String := Text.plain (Text.withLineFeed text)

/-- A stream as it is printed, under its label if it has one; an empty stream is not printed. -/
def printedStream (label : Option String) (text : String) : String :=
  if text.isEmpty then "" else (label.elim "" (· ++ "\n")) ++ printed text

/-- Both streams as they are printed. Labels tell them apart when there is something in both. -/
def Output.present (output : Output) : Output :=
  let isLabeled := !output.stdout.isEmpty && !output.stderr.isEmpty
  let label (name : String) : Option String := if isLabeled then some name else none
  ⟨printedStream (label "[stdout]") output.stdout, printedStream (label "[stderr]") output.stderr⟩

/-- The streams that are asked for; the others count as empty. -/
def Output.restrict (output : Output) (channels : Channels) : Output :=
  ⟨if channels.stdout then output.stdout else "", if channels.stderr then output.stderr else ""⟩

/-- What is printed of a run. -/
def Channels.present (channels : Channels) (output : Output) (log : String) : Output :=
  if channels.log then ⟨printedStream none log, ""⟩ else (output.restrict channels).present

/-- Something that comes out of the program, on one of its streams or as a note. -/
inductive Emission where
  | out (text : String)
  | err (text : String)
  | note (note : Diagnostic)
  deriving DecidableEq, Repr

namespace Emission

/-- What a message adds to standard error: always one line feed more than the message has. -/
def message (text : String) : Emission := .err (Text.plain (text ++ "\n"))

/-- The emissions of streams that are printed, standard output first. -/
def ofOutput (output : Output) : List Emission := [.out output.stdout, .err output.stderr]

def ofNotes (notes : List Diagnostic) : List Emission := notes.map .note

/-- What emissions leave on standard output. -/
def stdout (emissions : List Emission) : String :=
  String.join (emissions.map fun
    | .out text => text
    | _ => "")

/-- What emissions leave on standard error; `verbose` shows the notes of every severity. -/
def stderr (verbose : Bool) (emissions : List Emission) : String :=
  String.join (emissions.map fun
    | .out _ => ""
    | .err text => text
    | .note diagnostic =>
      if verbose || diagnostic.severity.isShown then diagnostic.line else "")

end Emission

end LineScript
