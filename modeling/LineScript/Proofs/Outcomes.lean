import LineScript.Builtin.Tables
import LineScript.Proofs.Composition
import LineScript.Proofs.Leftovers

/-!
# How a command's outcome ends its line
A command in the foreground says nothing, or ends in output or in a fault, at once or when its
handle is awaited; the prefix of its line decides what follows from that (`handleReply_upshot`). The
script goes on exactly if the outcome is one that the line accepts, and what the command has put out
is recorded once, whichever way the line ends (`execute_decides`).
-/
namespace LineScript

/-! ## Outcomes -/

/-- What a command comes to: it is done and has said nothing, or it ends in output, or in a
fault. -/
abbrev Upshot := Except Fault (Option Output)

/-- What a command has come to that has left a state and replied this, with its handle awaited if it
has handed one back; and the state then. -/
def Reply.settle (after : State) : Reply → State × Upshot
  | .done => (after, .ok none)
  | .fault raised => (after, .error raised)
  | .handle held => ((after.await held).1, (after.await held).2.2.map some)

/-- Calls a command and awaits its handle: the state then, and what the command has come to. -/
def Command.perform (command : Command) (args : List String) (state : State) : State × Upshot :=
  (command.run args state).2.settle (command.run args state).1

namespace Upshot

/-- The command has failed: it says so itself, or the system has refused it something. -/
def Fails (upshot : Upshot) : Prop :=
  ∃ fault failure output, upshot = .error fault ∧ fault.asFailure = .command failure output

/-- What there is to record: output, or what a command has put out before it failed. -/
def recorded : Upshot → Option Output
  | .ok said => said
  | .error fault => (Outcome.ofFault? fault.asFailure).map (·.output)

end Upshot

/-- The state with what there is to record. -/
def State.recordAny (state : State) : Option Output → State
  | some output => state.record output
  | none => state

section
variable (state : State) (said : Option Output)

theorem State.written_recordAny :
    (state.recordAny said).written = state.written.append (said.getD .empty) := by
  cases said with
  | none => exact state.written.append_empty.symm
  | some output => rfl

theorem State.last_recordAny : (state.recordAny said).last = said.getD state.last := by
  cases said <;> rfl

theorem State.isCanceled_recordAny : (state.recordAny said).isCanceled = state.isCanceled := by
  cases said <;> rfl

end

namespace Script.Expect

/-- The line goes on after this: a success where no failure was expected, or a failure where no
success was. -/
def Accepts (want : Expect) (upshot : Upshot) : Prop :=
  (∃ said, upshot = .ok said) ∧ want ≠ .failure ∨ upshot.Fails ∧ want ≠ .success

/-- What a line ends in whose command has come to this. -/
def ending (want : Expect) : Upshot → Except Fault Unit
  | .ok _ => if want = .failure then .error (.failure .unexpectedSuccess) else .ok ()
  | .error fault => match fault.asFailure with
    | .command reason output =>
      if want = .success then .error (.command reason output) else .ok ()
    | other => .error other

variable (want : Expect)

theorem ending_eq_ok (upshot : Upshot) : want.ending upshot = .ok () ↔ want.Accepts upshot := by
  cases upshot with
  | ok said => cases want <;> simp [ending, Accepts, Upshot.Fails]
  | error fault =>
    rw [ending, Accepts, Upshot.Fails]
    cases failed : fault.asFailure with
    | command reason output => cases want <;> simp [failed]
    | _ => simp [failed]

/-- A fault that is no failure of a command ends its line, whatever the line expects. -/
theorem ending_of_fault {fault : Fault} (other : Outcome.ofFault? fault.asFailure = none) :
    want.ending (.error fault) = .error fault := by
  cases fault with
  | command | system => cases other
  | _ => rfl

end Script.Expect

/-! ## Lines -/

namespace Engine

theorem conclude_upshot (want : Script.Expect) (state : State) (output : Output) :
    ∃ trace, conclude want state ⟨output, none⟩ =
      (state.record output, trace, want.ending (.ok (some output))) := by
  cases want <;> exact ⟨_, rfl⟩

theorem concludeFault_upshot (want : Script.Expect) (state : State) (fault : Fault) :
    ∃ trace, concludeFault want state fault =
      (state.recordAny (Upshot.recorded (.error fault)), trace, want.ending (.error fault)) := by
  rw [concludeFault, Upshot.recorded]
  cases told : Outcome.ofFault? fault.asFailure with
  | none => exact ⟨[], by rw [want.ending_of_fault told]; rfl⟩
  | some outcome =>
    cases fault <;> cases told
    all_goals cases want <;> exact ⟨_, rfl⟩

/-- A line in the foreground awaits what its command has replied. Then what there is to record is
recorded, and the line ends in what is expected of it. -/
theorem handleReply_upshot {line : Script.Line} (foreground : line.background = false)
    (after : State) (reply : Reply) : ∃ trace, handleReply line after reply =
      ((reply.settle after).1.recordAny (reply.settle after).2.recorded, trace,
        line.want.ending (reply.settle after).2) := by
  cases reply with
  | done =>
    refine ⟨[], ?_⟩
    rw [handleReply, concludeSilent]
    cases line.want <;> rfl
  | fault fault => exact concludeFault_upshot line.want after fault
  | handle handle =>
    rw [handleReply, if_neg (by simp [foreground])]
    cases result : (after.await handle).2.2 with
    | ok output =>
      obtain ⟨trace, concluded⟩ := conclude_upshot line.want (after.await handle).1 output
      simp only [result, concludeResult, concluded, Effect.after, Reply.settle]
      exact ⟨_, rfl⟩
    | error fault =>
      obtain ⟨trace, concluded⟩ := concludeFault_upshot line.want (after.await handle).1 fault
      simp only [result, concludeResult, concluded, Effect.after, Reply.settle]
      exact ⟨_, rfl⟩

/-- If its command has not handed back a handle, a line has nothing more to do than to log. -/
theorem handleReply_quiet (line : Script.Line) (state : State) {reply : Reply}
    (plain : ∀ handle, reply ≠ .handle handle) :
    Trace.Quiet (handleReply line state reply).2.1 := by
  cases reply with
  | done => exact Trace.quiet_nil
  | handle handle => exact absurd rfl (plain handle)
  | fault fault =>
    rw [handleReply, concludeFault]
    split
    · exact Trace.quiet_ofEntries _
    · exact Trace.quiet_nil

/-- A line in the foreground whose guards hold carries its command through. -/
theorem runLine_upshot {engine : Engine} {state : State} {line : Script.Line} {command : Command}
    (foreground : line.background = false)
    (guarded : (engine.guardsHold state.toScene line.guards).2 = .ok true)
    (found : engine.commands.find? line.name = some command) :
    ∃ trace, engine.runLine line state =
      ((command.perform line.args state).1.recordAny (command.perform line.args state).2.recorded,
        trace, line.want.ending (command.perform line.args state).2) := by
  obtain ⟨trace, replied⟩ := handleReply_upshot foreground (command.run line.args state).1
    (command.run line.args state).2
  rcases held : engine.guardsHold state.toScene line.guards with ⟨tests, result⟩
  rw [held] at guarded
  cases guarded
  have ran : engine.runLine line state = Effect.after [.logged (.echo line.raw)]
      (Effect.after tests (Effect.after [.called line (command.run line.args state).2]
        (handleReply line (command.run line.args state).1 (command.run line.args state).2))) := by
    simp [runLine, held, runCommand, found, foreground]
  rw [ran, replied]
  exact ⟨_, rfl⟩

/-- The text that such a line is read from does so too. -/
theorem step_upshot {engine : Engine} {raw : String} {state : State} {line : Script.Line}
    {command : Command} (alive : state.isCanceled = false)
    (read : Script.Line.parse (Text.stripLineEnd raw) state.env.expand = .ok (some line))
    (foreground : line.background = false)
    (guarded : (engine.guardsHold state.toScene line.guards).2 = .ok true)
    (found : engine.commands.find? line.name = some command) :
    ∃ trace, engine.step raw state = .ofEffect line.raw
      ((command.perform line.args state).1.recordAny (command.perform line.args state).2.recorded,
        trace, line.want.ending (command.perform line.args state).2) := by
  obtain ⟨trace, ran⟩ := runLine_upshot foreground guarded found
  exact ⟨trace, by rw [step_parsed alive read, ran]⟩

end Engine

/-! ## Lines of a script -/

/-- How lines end whose last one has come to this. -/
def Ending.ofResult (lineno : Nat) (text : String) : Except Fault Unit → Ending
  | .ok () => .finished lineno
  | .error (.stop _) => .stopped lineno
  | .error fault => if fault.isScript then .failed lineno text fault else .escaped fault

theorem Ending.ofResult_eq_finished (lineno : Nat) (text : String) (ended : Except Fault Unit) :
    ofResult lineno text ended = .finished lineno ↔ ended = .ok () := by
  rcases ended with fault | _
  · cases fault <;> simp [ofResult, Fault.isScript]
  · simp [ofResult]

theorem Ending.ofResult_of_script (lineno : Nat) (text : String) {fault : Fault}
    (script : fault.isScript = true) :
    ofResult lineno text (.error fault) = .failed lineno text fault := by
  cases fault with
  | stop message => cases script
  | _ => first | rfl | cases script

namespace Engine

theorem runLines_single {engine : Engine} (name : String) (count : Nat) {raw text : String}
    {state after : State} {trace : Trace} {ended : Except Fault Unit}
    (stepped : engine.step raw state = .ofEffect text (after, trace, ended)) :
    let progress := engine.runLines name count [raw] state
    progress.ending = .ofResult (count + 1) text ended ∧ after.SameButNotes progress.state := by
  simp only [runLines, stepped, Step.ofEffect, Ending.ofResult]
  rcases ended with fault | _
  · cases fault with
    | stop message => exact ⟨rfl, _, rfl⟩
    | _ => exact ⟨rfl, _, rfl⟩
  · exact ⟨rfl, _, rfl⟩

variable (engine : Engine) (name : String) (source : Source) (state : State) (count : Nat)

/-- The state in which a script comes to the line behind its first lines. -/
def reached : State := (engine.advance name (source.lines.take count) state).state

/-- A script comes to a line in a state that is not canceled. Its guards hold, and it calls a
command in the foreground. The command comes to the upshot and leaves the state settled: its scope
is not canceled then, and nothing was written meanwhile. -/
structure Performs (line : Script.Line) (settled : State) (upshot : Upshot) : Prop where
  finished : (engine.advance name (source.lines.take count) state).ending = .finished count
  alive : (engine.reached name source state count).isCanceled = false
  read : ∃ raw, source.lines[count]? = some raw ∧ Script.Line.parse (Text.stripLineEnd raw)
    (engine.reached name source state count).env.expand = .ok (some line)
  foreground : line.background = false
  guarded : (engine.guardsHold (engine.reached name source state count).toScene line.guards).2 =
    .ok true
  performed : ∃ command, engine.commands.find? line.name = some command ∧
    command.perform line.args (engine.reached name source state count) = (settled, upshot)
  going : settled.isCanceled = false
  unwritten : settled.written = (engine.reached name source state count).written

/-- The next line fails the script with this fault. What is in the background then is awaited, and
the script ends in the fault that names the line if the handles there end in output or in failures
of their commands. -/
structure FailsAt (text : String) (fault : Fault) : Prop where
  failed : (engine.advance name (source.lines.take (count + 1)) state).ending =
    .failed (count + 1) text fault
  ends : engine.execute name source state =
    .after (engine.advance name (source.lines.take (count + 1)) state).trace
      ((engine.reached name source state (count + 1)).abandon
        (.execution name (count + 1) text fault))
  located : (engine.reached name source state (count + 1)).Holds Handle.Telling →
    (engine.execute name source state).result = .error (.execution name (count + 1) text fault)

/-- The next line stops the script. What is in the background then is awaited as at the end of every
script, which ends well if there is nothing. -/
structure StopsAt : Prop where
  stopped : (engine.advance name (source.lines.take (count + 1)) state).ending =
    .stopped (count + 1)
  ends : engine.execute name source state =
    .after (engine.advance name (source.lines.take (count + 1)) state).trace
      ((engine.reached name source state (count + 1)).finish name (count + 1))
  well : (engine.reached name source state (count + 1)).background = [] →
    (engine.execute name source state).result = .ok ()

variable {engine : Engine} {name : String} {source : Source} {state : State} {count : Nat}

/-- Lines that end early are all that a script runs. -/
theorem execute_of_early
    (early : ∀ lineno,
      (engine.advance name (source.lines.take count) state).ending ≠ .finished lineno) :
    let progress := engine.advance name (source.lines.take count) state
    engine.execute name source state =
      .after progress.trace (progress.ending.run name source.failure progress.state) := by
  have rest := engine.runLines_append_of_not_finished name 0 (source.lines.take count)
    (source.lines.drop count) _ early
  rw [List.take_append_drop] at rest
  have same : engine.advance name source.lines state =
      engine.advance name (source.lines.take count) state := rest
  intro progress
  rw [execute, same]

theorem failsAt_of_failed {text : String} {fault : Fault}
    (failed : (engine.advance name (source.lines.take (count + 1)) state).ending =
      .failed (count + 1) text fault) :
    engine.FailsAt name source state count text fault := by
  have ends := @execute_of_early engine name source state (count + 1) (by simp [failed])
  simp only [failed] at ends
  refine ⟨failed, ends, fun telling => ?_⟩
  rw [ends]
  exact (State.abandon_clears telling _).2

theorem stopsAt_of_stopped
    (stopped : (engine.advance name (source.lines.take (count + 1)) state).ending =
      .stopped (count + 1)) : engine.StopsAt name source state count := by
  have ends := @execute_of_early engine name source state (count + 1) (by simp [stopped])
  simp only [stopped] at ends
  refine ⟨stopped, ends, fun idle => ?_⟩
  have nothing :
      (engine.advance name (source.lines.take (count + 1)) state).state.background = [] := idle
  rw [ends, Ending.run]
  simp [State.finish, nothing, Run.after]

theorem advance_succ {raw : String}
    (finished : (engine.advance name (source.lines.take count) state).ending = .finished count)
    (next : source.lines[count]? = some raw) :
    engine.advance name (source.lines.take (count + 1)) state =
      .after (engine.advance name (source.lines.take count) state).trace
        (engine.runLines name count [raw] (engine.reached name source state count)) := by
  have more : source.lines.take (count + 1) = source.lines.take count ++ [raw] := by
    rw [List.take_add_one, next]
    rfl
  rw [more]
  exact engine.runLines_append_of_finished name 0 (source.lines.take count) [raw] _ finished

/-- The line that a script comes to ends as is expected of it, and what there is to record is
recorded. -/
theorem Performs.beyond {line : Script.Line} {settled : State} {upshot : Upshot}
    (performs : engine.Performs name source state count line settled upshot) :
    (engine.advance name (source.lines.take (count + 1)) state).ending =
        .ofResult (count + 1) line.raw (line.want.ending upshot) ∧
      (settled.recordAny upshot.recorded).SameButNotes
        (engine.reached name source state (count + 1)) := by
  obtain ⟨raw, next, read⟩ := performs.read
  obtain ⟨command, found, performed⟩ := performs.performed
  obtain ⟨trace, stepped⟩ :=
    step_upshot performs.alive read performs.foreground performs.guarded found
  rw [performed] at stepped
  obtain ⟨ending, same⟩ := runLines_single name count stepped
  rw [reached, advance_succ performs.finished next]
  exact ⟨ending, same⟩

/-- The prefix of a line decides how it ends, and the script with it. It goes on exactly if its
command has succeeded and no failure was expected, or if it has failed and no success was. A fault
of another kind fails the script, and a stop ends it, whatever the prefix; without one so does a
failure. Output is recorded once, whichever way the line ends. -/
theorem execute_decides {line : Script.Line} {settled : State} {upshot : Upshot}
    (performs : engine.Performs name source state count line settled upshot) :
    let before := engine.reached name source state count
    let after := engine.reached name source state (count + 1)
    let fails := engine.FailsAt name source state count line.raw
    ((engine.advance name (source.lines.take (count + 1)) state).ending = .finished (count + 1) ↔
      line.want.Accepts upshot) ∧
    (∀ fault failure output, upshot = .error fault → fault.asFailure = .command failure output →
      line.want = .success → fails (.command failure output)) ∧
    (∀ said, upshot = .ok said → line.want = .failure → fails (.failure .unexpectedSuccess)) ∧
    (∀ fault, upshot = .error fault → fault.isScript = true →
      (∀ failure output, fault ≠ .command failure output) → fails fault) ∧
    (∀ message, upshot = .error (.stop message) → engine.StopsAt name source state count) ∧
    after.isCanceled = false ∧ after.background = settled.background ∧
    after.written = before.written.append (upshot.recorded.getD .empty) ∧
    after.last = upshot.recorded.getD settled.last := by
  intro before after fails
  obtain ⟨ending, notes, same⟩ := performs.beyond
  have failing {fault : Fault} (script : fault.isScript = true)
      (ended : line.want.ending upshot = .error fault) : fails fault := by
    rw [ended, Ending.ofResult_of_script _ _ script] at ending
    exact failsAt_of_failed ending
  refine ⟨?_, ?_, ?_, ?_, ?_, ?_, ?_, ?_, ?_⟩
  · rw [ending, Ending.ofResult_eq_finished, Script.Expect.ending_eq_ok]
  · rintro fault failure output rfl failed want
    exact failing rfl (by simp [Script.Expect.ending, failed, want])
  · rintro said rfl want
    exact failing rfl (by simp [Script.Expect.ending, want])
  · rintro fault rfl script other
    have foreign : Outcome.ofFault? fault.asFailure = none := by
      cases fault with
      | command failure output => exact absurd rfl (other failure output)
      | system => cases script
      | _ => rfl
    exact failing script (line.want.ending_of_fault foreign)
  · rintro message rfl
    rw [line.want.ending_of_fault rfl] at ending
    exact stopsAt_of_stopped ending
  · simp only [after, same]
    exact (settled.isCanceled_recordAny _).trans performs.going
  · simp only [after, same]
    cases upshot.recorded <;> rfl
  · simp only [after, same]
    have written := settled.written_recordAny upshot.recorded
    rwa [performs.unwritten] at written
  · simp only [after, same]
    exact settled.last_recordAny _

/-- Where a failure is allowed the script goes on behind it, with the output of the command that has
failed. -/
theorem execute_decides_allowed :
    let state := State.start .empty "/" .empty
    let source := Source.ofLines ["? booma 'no' out err\n", "wait\n"]
    let line : Script.Line :=
      ⟨"? booma 'no' out err", "booma", ["no", "out", "err"], [], .any, false⟩
    failingEngine.Performs "s" source state 0 line (failingEngine.attach state)
        (.error (.command (.worded "no") ⟨"out", "err"⟩)) ∧
      (failingEngine.advance "s" (source.lines.take 1) state).ending = .finished 1 ∧
      (failingEngine.reached "s" source state 1).written = ⟨"out", "err"⟩ := by
  intro state source line
  have words : Script.rawWords "? booma 'no' out err" = .ok [[.plain "?".toList],
      [.plain "booma".toList], [.quoted "no".toList], [.plain "out".toList],
      [.plain "err".toList]] := rfl
  have read : Script.Line.parse "? booma 'no' out err" state.env.expand = .ok (some line) :=
    @Script.Line.parse_plain _ _ _ " booma 'no' out er".toList rfl rfl rfl (by decide) _ words
      (by simp) _ rfl state.env
  have performs : failingEngine.Performs "s" source state 0 line (failingEngine.attach state)
      (.error (.command (.worded "no") ⟨"out", "err"⟩)) :=
    ⟨rfl, rfl, ⟨_, rfl, read⟩, rfl, rfl, ⟨failingLater, rfl, rfl⟩, rfl, rfl⟩
  obtain ⟨goes, _, _, _, _, _, _, written, _⟩ := execute_decides performs
  refine ⟨performs, goes.mpr (.inr ⟨⟨_, _, _, rfl, rfl⟩, by decide⟩), written⟩

/-- A stop ends its script as every end does: with a failure if a command in the background fails
that is still waited for then. -/
theorem execute_stops_waiting :
    let begun := State.start .empty "/" .empty
    let failing : Handle := .task fun scene => (scene, .error (.failure (.worded "no")))
    let state := begun.withPending ⟨"booma no &", failing, .success⟩
    let source := Source.ofLines ["stop\n"]
    let line : Script.Line := ⟨"stop", "stop", [], [], .success, false⟩
    standard.Performs "s" source state 0 line (standard.attach state) (.error (.stop "")) ∧
      (standard.execute "s" source state).result ≠ .ok () := by
  intro begun failing state source line
  have words : Script.rawWords "stop" = .ok [[.plain "stop".toList]] := rfl
  have read : Script.Line.parse "stop" state.env.expand = .ok (some line) :=
    @Script.Line.parse_plain _ _ _ "to".toList rfl rfl rfl (by decide) _ words (by simp) _ rfl
      state.env
  have performs : standard.Performs "s" source state 0 line (standard.attach state)
      (.error (.stop "")) :=
    ⟨rfl, rfl, ⟨_, rfl, read⟩, rfl, rfl, ⟨_, rfl, rfl⟩, rfl, rfl⟩
  obtain ⟨ending, notes, same⟩ := performs.beyond
  refine ⟨performs, ?_⟩
  rw [(stopsAt_of_stopped ending).ends, same]
  rintro ⟨⟩

end Engine

end LineScript
