import LineScript.Source
import LineScript.Trace

/-!
# Execution
A script is executed line by line. A line either goes on to the next one, or stops the script, or
fails it, and then the fault of the script names the line; what is no fault of scripts leaves the
execution as it is. Commands in the background are awaited at the latest when the script ends.
-/
namespace LineScript

/-- The failure of a line whose command came out as given, if it is not what the line expects. -/
def Script.Expect.failure? (want : Script.Expect) (failure : Option Failure) : Option Failure :=
  match want, failure with
  | .success, some failure => some failure
  | .failure, none => some .unexpectedSuccess
  | _, _ => none

/-- How a command came out: its output, and why it failed, if it did. -/
structure Outcome where
  output : Output
  failure : Option Failure

/-- The outcome that the fault of a command tells of. -/
def Outcome.ofFault? : Fault → Option Outcome
  | .command failure output => some ⟨output, some failure⟩
  | _ => none

/-- The outcome of an awaited handle; only failures of commands are outcomes. -/
def Outcome.ofResult : Except Fault Output → Except Fault Outcome
  | .ok output => .ok ⟨output, none⟩
  | .error fault => match ofFault? fault with
    | some outcome => .ok outcome
    | none => .error fault

/-- Awaits the handle of a command in the background. Nothing else is in the background then. -/
def Handle.await (handle : Handle) (scene : Scene) : Scene × Except Fault Output :=
  match handle with
  | .task run => run scene
  | .join => (scene, .ok .empty)

/-- What is said of a line in the background that did not come out as expected. What is silent is
left out. -/
def Pending.failures (pending : Pending) (outcome : Outcome) : List (String × String) :=
  match pending.want.failure? outcome.failure with
  | some failure => if failure.message.isEmpty then [] else [(pending.line, failure.message)]
  | none => []

/-- Awaits commands in order: their joint output, and what is said of their lines. -/
def awaitAll : List Pending → Scene →
    Scene × Trace × Except Fault (Output × List (String × String))
  | [], scene => (scene, [], .ok (.empty, []))
  | pending :: rest, scene =>
    let (scene, result) := pending.handle.await scene
    match Outcome.ofResult result with
    | .error fault => (scene, [.collected pending.handle result], .error fault)
    | .ok outcome =>
      let (scene, trace, after) := awaitAll rest scene
      (scene, .collected pending.handle result :: trace, after.map fun (output, more) =>
        (outcome.output.append output, pending.failures outcome ++ more))

namespace State

/-- Awaits everything in the background, in the order in which it was started. -/
def join (state : State) : State × Trace × Except Fault Output :=
  let (scene, trace, result) := awaitAll state.background state.toScene
  ({ state with toScene := scene, background := [] }, trace, match result with
    | .error fault => .error fault
    | .ok (output, []) => .ok output
    | .ok (output, failures) => .error (.command (.background failures) output))

def await (state : State) : Handle → State × Trace × Except Fault Output
  | .task run =>
    let (scene, result) := run state.toScene
    ({ state with toScene := scene }, [.awaited (.task run) result], result)
  | .join =>
    let (state, trace, result) := state.join
    (state, .awaited .join result :: trace, result)

def record (state : State) (output : Output) : State :=
  { state with toScene := state.toScene.record output }

def note (state : State) (severity : Severity) (message : String) : State :=
  { state with toStage := state.toStage.note severity .engine message }

end State

/-- What a line does to a state, what happens meanwhile, and the fault it ends in, if any. -/
abbrev Effect := State × Trace × Except Fault Unit

namespace Engine

/-- The condition that a guard names, called as it wants to be. -/
def condition (engine : Engine) (guard : Script.Guard) : Except ConditionFault Condition :=
  match engine.conditions.find? guard.name with
  | none => .error (.unknown guard.name)
  | some condition =>
    if condition.usage.takesSuffix && !guard.hasSuffix then .error (.needsSuffix guard)
    else if !condition.usage.takesSuffix && guard.hasSuffix then
      .error (.takesNoSuffix guard.name)
    else .ok condition

/-- Evaluates guards from left to right, up to the first that does not hold. -/
def guardsHold (engine : Engine) (scene : Scene) :
    List Script.Guard → Trace × Except Fault Bool
  | [] => ([], .ok true)
  | guard :: rest =>
    match engine.condition guard with
    | .error fault => ([], .error (.condition fault))
    | .ok condition =>
      match condition.holds scene guard.suffix with
      | .error fault =>
        ([.tested guard], .error (if fault.isScript then fault else .raised guard fault))
      | .ok value =>
        if value = guard.negated then ([.tested guard], .ok false)
        else
          let (trace, result) := engine.guardsHold scene rest
          (.tested guard :: trace, result)

/-- Ends a line by what its command came to: output is recorded, a failure that does not end the
script is noted, and an outcome that was not expected is a fault. -/
def conclude (want : Script.Expect) (state : State) (outcome : Outcome) : Effect :=
  let entries := outcome.output.entries ++ match outcome.failure with
    | some failure => if want = .success then [] else [.note failure.message]
    | none => []
  (state.record outcome.output, .ofEntries entries,
    match want.failure? outcome.failure with
    | none => .ok ()
    | some failure => match outcome.failure with
      | some _ => .error (.command failure outcome.output)
      | none => .error (.failure failure))

/-- Ends a line whose command was done at once and said nothing. -/
def concludeSilent (want : Script.Expect) (state : State) : Effect :=
  (state, [], match want.failure? none with
    | none => .ok ()
    | some failure => .error (.failure failure))

/-- Ends a line whose command or handle ended in a fault. -/
def concludeFault (want : Script.Expect) (state : State) (fault : Fault) : Effect :=
  match Outcome.ofFault? fault.asFailure with
  | some outcome => conclude want state outcome
  | none => (state, [], .error fault)

/-- Ends a line whose handle was awaited. -/
def concludeResult (want : Script.Expect) (state : State) : Except Fault Output → Effect
  | .ok output => conclude want state ⟨output, none⟩
  | .error fault => concludeFault want state fault

/-- What happens first, put in front of an effect. -/
def Effect.after (trace : Trace) (effect : Effect) : Effect :=
  (effect.1, trace ++ effect.2.1, effect.2.2)

/-- Goes on after a command has been called. -/
def handleReply (line : Script.Line) (state : State) : Reply → Effect
  | .done => concludeSilent line.want state
  | .fault fault => concludeFault line.want state fault
  | .handle handle =>
    if line.background then
      ({ state with background := state.background ++ [⟨line.raw, handle, line.want⟩] }, [],
        .ok ())
    else
      let (state, trace, result) := state.await handle
      Effect.after trace (concludeResult line.want state result)

/-- Runs the command of a line. -/
def runCommand (engine : Engine) (line : Script.Line) (state : State) : Effect :=
  match engine.commands.find? line.name with
  | none => (state, [], .error (.line (.unknownCommand line.name)))
  | some command =>
    if line.background && !command.usage.isAsync then
      (state, [], .error (.usage (.noBackground line.name)))
    else
      let (state, reply) := command.run line.args state
      Effect.after [.called line reply] (handleReply line state reply)

/-- Runs a line whose text has been read. -/
def runLine (engine : Engine) (line : Script.Line) (state : State) : Effect :=
  Effect.after [.logged (.echo line.raw)] <|
    match engine.guardsHold state.toScene line.guards with
    | (trace, .error fault) => (state, trace, .error fault)
    | (trace, .ok false) => (state, trace ++ [.logged .skipped], .ok ())
    | (trace, .ok true) => Effect.after trace (engine.runCommand line state)

end Engine

/-- How a script goes on after a line. -/
inductive Sequel where
  | next
  | stop
  | fail (text : String) (cause : Fault)
  | escape (fault : Fault)

/-- What a line does, and how the script goes on. -/
structure Step where
  state : State
  trace : Trace
  sequel : Sequel

/-- What is noted when a script stops. -/
def stopNote (message : String) : String :=
  if message.isEmpty then "stop" else "stop: " ++ message

/-- The step that an effect makes. -/
def Step.ofEffect (text : String) (effect : Effect) : Step :=
  let (state, trace, result) := effect
  match result with
  | .ok () => ⟨state, trace, .next⟩
  | .error (.stop message) => ⟨state, trace ++ [.logged (.note (stopNote message))], .stop⟩
  | .error fault =>
    if fault.isScript then ⟨state, trace ++ [.logged (.note fault.message)], .fail text fault⟩
    else ⟨state, trace, .escape fault⟩

/-- Runs one line of a script, as it was read. -/
def Engine.step (engine : Engine) (raw : String) (state : State) : Step :=
  let line := Text.stripLineEnd raw
  let text := Text.strip line
  if state.isCanceled then ⟨state, [], .fail text (.line .canceled)⟩
  else if Script.isComment text then ⟨state, [.logged (.comment text)], .next⟩
  else match Script.Line.parse line state.env.expand with
    | .error fault => ⟨state, [.logged (.note fault.message)], .fail text (.parse fault)⟩
    | .ok none => ⟨state, [], .next⟩
    | .ok (some line) => .ofEffect line.raw (engine.runLine line state)

/-- How the lines of a script came to their end, with the number of the last line read. -/
inductive Ending where
  | finished (lineno : Nat)
  | stopped (lineno : Nat)
  | failed (lineno : Nat) (text : String) (cause : Fault)
  | escaped (fault : Fault)

/-- What running lines comes to: the state after them, what happened, and how they ended. -/
structure Progress where
  state : State
  trace : Trace
  ending : Ending

/-- What happened before, put in front of what running lines comes to. -/
def Progress.after (trace : Trace) (progress : Progress) : Progress :=
  { progress with trace := trace ++ progress.trace }

/-- Runs lines in order, `count` lines having been read before them. -/
def Engine.runLines (engine : Engine) (name : String) (count : Nat) :
    List String → State → Progress
  | [], state => ⟨state, [], .finished count⟩
  | raw :: rest, state =>
    let step := engine.step raw state
    match step.sequel with
    | .next => .after step.trace (engine.runLines name (count + 1) rest step.state)
    | .stop =>
      ⟨step.state.note .debug (name ++ ":" ++ toString (count + 1) ++ ": script stopped"),
        step.trace, .stopped (count + 1)⟩
    | .fail text cause => ⟨step.state, step.trace, .failed (count + 1) text cause⟩
    | .escape fault => ⟨step.state, step.trace, .escaped fault⟩

/-- What executing a script comes to. -/
structure Run where
  state : State
  trace : Trace
  result : Except Fault Unit

/-- What happened before, put in front of a run. -/
def Run.after (trace : Trace) (run : Run) : Run := { run with trace := trace ++ run.trace }

/-- Awaits what is left in the background when the lines of a script have come to their end. -/
def State.finish (state : State) (name : String) (lineno : Nat) : Run :=
  if state.background.isEmpty then ⟨state, [], .ok ()⟩
  else
    let (state, trace, result) := state.join
    match result with
    | .ok output => ⟨state.record output, trace ++ .ofEntries output.entries, .ok ()⟩
    | .error (.command failure output) =>
      ⟨state.record output,
        trace ++ .ofEntries (output.entries ++ [.note failure.message]),
        .error (.execution name lineno "wait" (.command failure output))⟩
    | .error fault => ⟨state, trace, .error fault⟩

/-- Awaits what is left in the background when a script has failed. Its output is not recorded,
and its failure is noted only. -/
def State.abandon (state : State) (fault : Fault) : Run :=
  if state.background.isEmpty then ⟨state, [], .error fault⟩
  else
    let (state, trace, result) := state.join
    match result with
    | .ok _ => ⟨state, trace, .error fault⟩
    | .error (.command failure _) =>
      ⟨state.note .debug ("background command failed after script error: " ++ failure.message),
        trace ++ [.logged (.note ("background: " ++ failure.message))], .error fault⟩
    | .error other => ⟨state, trace, .error other⟩

/-- Ends a script whose source fails. An execution fault of the source is taken for one of a line;
what else it raises leaves everything as it is. -/
def State.interrupt (state : State) (fault : Fault) : Run :=
  if fault.isExecution then state.abandon fault else ⟨state, [], .error fault⟩

/-- Ends a script whose lines came to an end as given. -/
def Ending.run (name : String) (failure : Option Fault) (state : State) : Ending → Run
  | .finished lineno => match failure with
    | some fault => state.interrupt fault
    | none => state.finish name lineno
  | .stopped lineno => state.finish name lineno
  | .failed lineno text cause => state.abandon (.execution name lineno text cause)
  | .escaped fault => ⟨state, [], .error fault⟩

/-- Runs the lines of a script against a state, with the manual of the engine at hand. -/
def Engine.advance (engine : Engine) (name : String) (lines : List String) (state : State) :
    Progress :=
  engine.runLines name 0 lines (engine.attach state)

/-- Executes a script against a state. -/
def Engine.execute (engine : Engine) (name : String) (source : Source) (state : State) : Run :=
  let progress := engine.advance name source.lines state
  .after progress.trace (progress.ending.run name source.failure progress.state)

end LineScript
