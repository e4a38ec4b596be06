import LineScript.Builtin.Tables
import LineScript.Execution
import LineScript.Presentation
import LineScript.Settings

/-!
# Reports
A script that is run on a machine comes to a report: what it wrote, its log, and why it failed, if
it did. Faults that are no faults of scripts leave the run without a report.
-/
namespace LineScript

/-- What a script comes to. -/
structure Report where
  output : Output
  log : String
  failure : Option Fault

/-- The script ran to its end. -/
def Report.success (report : Report) : Bool := report.failure.isNone

/-- A report of a script that never ran. -/
def Report.unstarted (fault : Fault) : Report := ⟨.empty, "", some fault⟩

/-- What running a script does: the machine after it, the notes made meanwhile, and the report or
the fault that leaves the run. -/
structure Performance where
  machine : Machine
  notes : List Diagnostic
  result : Except Fault Report

def runNote (severity : Severity) (message : String) : Diagnostic := ⟨severity, .runner, message⟩

/-- The failure that a report gives for the fault of an execution, and what is noted of it. What
reading the script meets is reported as that; other faults that are not of scripts are not
reported. -/
def Fault.asReported (name : String) (fault : Fault) : Option (Fault × String) :=
  if fault.isScript then some (fault, "Script " ++ name ++ " failed: " ++ fault.message)
  else
    let reading := some
      (.unread name fault, "Reading script " ++ name ++ " failed: " ++ fault.message)
    match fault with
    | .system _ => reading
    | .decoding _ => reading
    | _ => none

/-- The performance that an execution amounts to. -/
def Run.performance (run : Run) (name : String) : Performance :=
  let notes := runNote .info ("Running script: " ++ name) :: run.state.diagnostics
  let report (failure : Option Fault) : Report := ⟨run.state.written, run.trace.log, failure⟩
  match run.result with
  | .ok () => ⟨run.state.machine, notes, .ok (report none)⟩
  | .error fault => match fault.asReported name with
    | some (failure, message) =>
      ⟨run.state.machine, notes ++ [runNote .debug message], .ok (report (some failure))⟩
    | none => ⟨run.state.machine, notes, .error fault⟩

/-- A fresh state with the environment of the program itself. -/
def Settings.state (settings : Settings) (machine : Machine) : Except Fault State :=
  State.create machine settings.workdir machine.environ.toEntries

/-- Runs a script on a fresh engine and state. -/
def Settings.runScript (settings : Settings) (machine : Machine) (name : String)
    (source : Source) : Performance :=
  match Engine.standard.extendNamed settings.naming with
  | .error fault => ⟨machine, [], .error fault⟩
  | .ok engine => match settings.state machine with
    | .ok state => (engine.execute name source state).performance name
    | .error fault =>
      if fault.isScript then
        ⟨machine, [runNote .error ("Cannot create execution state for " ++ name ++ ": " ++
          fault.message)], .ok (.unstarted fault)⟩
      else ⟨machine, [], .error fault⟩

/-- Runs the script in a file. -/
def Settings.runFile (settings : Settings) (machine : Machine) (path : String) : Performance :=
  if Files.Store.hasNul path then ⟨machine, [], .error (.value .embeddedNul)⟩
  else match machine.store.readFile path with
    | .ok bytes => settings.runScript machine path (.ofBytes bytes)
    | .error refusal => ⟨machine, [], .ok (.unstarted (.unopened path refusal.reason))⟩

end LineScript
