import LineScript.Engine
import LineScript.Text.Lines

/-!
# Traces
A trace is what happens while a script runs, in order: what is written to the log, which guards are
evaluated, which commands are called and what they reply, and what their handles end in. A handle is
handed over by a line and awaited there, or it is sent into the background and collected from there.
The log is the text of the entries in a trace.
-/
namespace LineScript

/-- An entry of the log. -/
inductive Entry where
  | comment (text : String)
  | echo (line : String)
  | skipped
  | note (message : String)
  | stdout (text : String)
  | stderr (text : String)
  deriving DecidableEq, Repr

/-- An entry as it is written: whole lines. -/
def Entry.text : Entry → String
  | .comment text => text ++ "\n"
  | .echo line => "> " ++ line ++ "\n"
  | .skipped => "[condition not met]\n"
  | .note message => "[" ++ message ++ "]\n"
  | .stdout text => "[stdout]\n" ++ Text.withLineFeed text
  | .stderr text => "[stderr]\n" ++ Text.withLineFeed text

/-- The entries for output; an empty stream has none. -/
def Output.entries (output : Output) : List Entry :=
  (if output.stdout.isEmpty then [] else [.stdout output.stdout]) ++
    (if output.stderr.isEmpty then [] else [.stderr output.stderr])

/-- What happens while a script runs. -/
inductive Event where
  | logged (entry : Entry)
  | tested (guard : Script.Guard)
  | called (line : Script.Line) (reply : Reply)
  | awaited (handle : Handle) (result : Except Fault Output)
  | collected (handle : Handle) (result : Except Fault Output)

/-- What happened, in order. -/
abbrev Trace := List Event

namespace Trace

/-- The entries written to the log. -/
def entries (trace : Trace) : List Entry :=
  trace.filterMap fun
    | .logged entry => some entry
    | _ => none

/-- The log. -/
def log (trace : Trace) : String := String.join (trace.entries.map Entry.text)

/-- The commands that were called, with their arguments. -/
def calls (trace : Trace) : List (String × List String) :=
  trace.filterMap fun
    | .called line _ => some (line.name, line.args)
    | _ => none

/-- The guards that were evaluated. -/
def tests (trace : Trace) : List Script.Guard :=
  trace.filterMap fun
    | .tested guard => some guard
    | _ => none

/-- The handles that commands in the foreground replied with. -/
def handed (trace : Trace) : List Handle :=
  trace.filterMap fun
    | .called line (.handle handle) => if line.background then none else some handle
    | _ => none

/-- The handles that were awaited in the foreground. -/
def awaited (trace : Trace) : List Handle :=
  trace.filterMap fun
    | .awaited handle _ => some handle
    | _ => none

/-- The handles that commands in the background replied with. -/
def sent (trace : Trace) : List Handle :=
  trace.filterMap fun
    | .called line (.handle handle) => if line.background then some handle else none
    | _ => none

/-- The handles that were awaited in the background. -/
def collected (trace : Trace) : List Handle :=
  trace.filterMap fun
    | .collected handle _ => some handle
    | _ => none

/-- The events that write entries. -/
def ofEntries (entries : List Entry) : Trace := entries.map .logged

end Trace

end LineScript
