import LineScript.Proofs.Cancellation

/-!
# The last wait of a script
A script whose lines end well, but leave something in the background, ends as if it had `wait` for
one more line: in the same state, well or by the same failure (`execute_wait`). The log has the
echo of that line more, and the failure is reported under its number. This is so unless a command
of the script has canceled its scope: the end of the script waits even then, but no line is run
(`execute_wait_not_always`).
-/
namespace LineScript

/-- How a script ends that waits in the state `reached` for what is in the background: the outcome
of the wait is recorded and logged behind the entries that come before, and a failure is one of the
line `wait`, under the number given. -/
structure Run.Joined (run : Run) (name : String) (lineno : Nat) (reached : State)
    (before : List Entry) (outcome : Outcome) : Prop where
  known : Outcome.ofResult reached.join.2.2 = .ok outcome
  state : run.state = reached.join.1.record outcome.output
  entries : run.trace.entries =
    before ++ (outcome.output.entries ++
      outcome.failure.toList.map fun failure => .note failure.message)
  result : run.result = match outcome.failure with
    | none => .ok ()
    | some failure => .error (.execution name lineno "wait" (.command failure outcome.output))

section
variable {reached : State} {outcome : Outcome}

/-- What happened before the wait stands before it in the log. -/
theorem Run.Joined.after {run : Run} {name : String} {lineno : Nat} {before : List Entry}
    (joined : run.Joined name lineno reached before outcome) (trace : Trace) :
    (run.after trace).Joined name lineno reached (trace.entries ++ before) outcome where
  known := joined.known
  state := joined.state
  entries := by
    rw [List.append_assoc, ← joined.entries]
    exact Trace.entries_append trace run.trace
  result := joined.result

end

end LineScript
