import LineScript.Builtin.Looking
import LineScript.Proofs.MarkedLines
import LineScript.Proofs.Steps
import LineScript.Proofs.Waiting

/-!
# In the background or in the foreground
A command that is sent into the background and waited for leaves the same state as in the
foreground, and it succeeds in the one way if and only if it does in the other, but for one case: a
failure without a message, where success was expected, is passed over in the background
(`execute_marked`).
-/
namespace LineScript

/-! ## Reading -/

/-- The line that waits for the background. -/
def Script.waitLine : Script.Line := ⟨"wait", "wait", [], [], .success, false⟩

theorem Script.parse_wait (env : Environment) :
    Script.Line.parse Script.waitLine.raw env.expand = .ok (some Script.waitLine) := by
  have trimmed : Text.Trimmed "wait".toList :=
    Text.trimmed_framed (by decide) (by decide) "ai".toList
  have split : splitWords "wait" env.expand = .ok [⟨"wait", false⟩] := by
    have raw : rawWords "wait" = .ok [[.plain "wait".toList]] := rfl
    exact splitWords_of_plain raw (by simp) env
  exact Line.parse_trimmed trimmed ⟨'w', "ait".toList, rfl, by decide⟩ split rfl

/-! ## Single lines -/

namespace Engine

/-- A line that is read in a scope that is not canceled is run. -/
theorem step_parsed {engine : Engine} {raw : String} {line : Script.Line} {state : State}
    (alive : state.isCanceled = false)
    (read : Script.Line.parse (Text.stripLineEnd raw) state.env.expand = .ok (some line)) :
    engine.step raw state = .ofEffect line.raw (engine.runLine line state) := by
  obtain ⟨_, silent, _⟩ := Script.Line.words_of_parse read
  have comment : Script.isComment (Text.strip (Text.stripLineEnd raw)) = false := by
    rw [Bool.or_eq_false_iff] at silent
    exact silent.2
  simp only [step, alive, comment, read]
  rfl

theorem step_read {engine : Engine} {line : Script.Line} {state : State}
    (alive : state.isCanceled = false)
    (read : Script.Line.parse line.raw state.env.expand = .ok (some line)) :
    engine.step (line.raw ++ "\n") state = .ofEffect line.raw (engine.runLine line state) := by
  obtain ⟨trimmed, _⟩ := Script.Line.parse_raw read
  apply step_parsed alive
  rwa [Text.stripLineEnd_of_trimmed trimmed]

theorem runLine_called {engine : Engine} {line : Script.Line} {state after : State}
    {command : Command} {reply : Reply} (unguarded : line.guards = [])
    (found : engine.commands.find? line.name = some command)
    (allowed : line.background = true → command.usage.isAsync = true)
    (replied : command.run line.args state = (after, reply)) :
    engine.runLine line state = Effect.after [.logged (.echo line.raw), .called line reply]
      (handleReply line after reply) := by
  have permitted : (line.background && !command.usage.isAsync) = false := by
    cases background : line.background with
    | false => rfl
    | true => simp [allowed background]
  simp [runLine, unguarded, guardsHold, runCommand, found, permitted, replied, Effect.after]

theorem step_called {engine : Engine} {line : Script.Line} {state after : State}
    {command : Command} {reply : Reply} (alive : state.isCanceled = false)
    (read : Script.Line.parse line.raw state.env.expand = .ok (some line))
    (unguarded : line.guards = []) (found : engine.commands.find? line.name = some command)
    (allowed : line.background = true → command.usage.isAsync = true)
    (replied : command.run line.args state = (after, reply)) :
    engine.step (line.raw ++ "\n") state = .ofEffect line.raw
      (Effect.after [.logged (.echo line.raw), .called line reply]
        (handleReply line after reply)) := by
  rw [step_read alive read, runLine_called unguarded found allowed replied]

end Engine

/-! ## Waiting for one command -/

namespace State

variable {state : State} {handle : Handle} {outcome : Outcome}

/-- With nothing in the background, to await a handle in the foreground is to run it. -/
theorem await_idle (idle : state.background = []) :
    ∃ trace, state.await handle = ({ state with toScene := (handle.await state.toScene).1 }, trace,
      (handle.await state.toScene).2) := by
  cases handle with
  | task run => exact ⟨_, rfl⟩
  | join =>
    obtain ⟨⟨scene, background, notes⟩, manual⟩ := state
    cases idle
    exact ⟨_, rfl⟩

/-- To wait for the only command in the background is to run its handle, and the wait fails if
there is something to say of the line. -/
theorem join_single {pending : Pending} (only : state.background = [pending])
    (known : Outcome.ofResult (pending.handle.await state.toScene).2 = .ok outcome) :
    ∃ trace result joined, state.join =
        ({ state with toScene := (pending.handle.await state.toScene).1, background := [] }, trace,
          result) ∧
      Outcome.ofResult result = .ok joined ∧ joined.output = outcome.output ∧
      (joined.failure = none ↔ pending.failures outcome = []) := by
  have waited : awaitAll [pending] state.toScene = ((pending.handle.await state.toScene).1,
      [.collected pending.handle (pending.handle.await state.toScene).2],
        .ok (outcome.output, pending.failures outcome)) := by
    rw [awaitAll_of_ok known]
    simp [awaitAll, Except.map, Output.append_empty]
  simp only [join, only, waited]
  cases said : pending.failures outcome with
  | nil => exact ⟨_, _, ⟨outcome.output, none⟩, rfl, rfl, rfl, by simp⟩
  | cons failure more =>
    exact ⟨_, _, ⟨outcome.output, some (.background (failure :: more))⟩, rfl, rfl, rfl, by simp⟩

end State

/-- The line `wait` ends by what everything in the background comes to. -/
theorem Engine.step_join {engine : Engine} {state : State} {outcome : Outcome}
    (waits : ∃ usage, engine.commands.find? "wait" = some (Builtin.looking usage Builtin.wait))
    (alive : state.isCanceled = false) (known : Outcome.ofResult state.join.2.2 = .ok outcome) :
    ∃ trace : Trace, trace.entries = [.echo "wait"] ∧ engine.step "wait\n" state =
      .ofEffect "wait" (Effect.after trace (conclude .success state.join.1 outcome)) := by
  obtain ⟨usage, found⟩ := waits
  have replied : (Builtin.looking usage Builtin.wait).run [] state = (state, .handle .join) := rfl
  have called := @runLine_called engine Script.waitLine state _ _ _ rfl found
    (by simp [Script.waitLine]) replied
  have stepped := @step_read engine Script.waitLine state alive (Script.parse_wait state.env)
  refine ⟨[.logged (.echo "wait"), .called Script.waitLine (.handle .join),
    .awaited .join state.join.2.2] ++ state.join.2.1, ?_, stepped.trans ?_⟩
  · exact congrArg (Entry.echo "wait" :: ·) state.entries_join
  · rw [called, handleReply, if_neg (by simp [Script.waitLine]), ← concludeResult_of_known _ _ known]
    simp only [State.await, Effect.after, List.append_assoc]
    rfl

/-- It ends well if there is nothing to say of the only line in the background. -/
theorem Engine.step_wait {engine : Engine} {state : State} {pending : Pending} {outcome : Outcome}
    (waits : ∃ usage, engine.commands.find? "wait" = some (Builtin.looking usage Builtin.wait))
    (alive : state.isCanceled = false) (only : state.background = [pending])
    (known : Outcome.ofResult (pending.handle.await state.toScene).2 = .ok outcome) :
    ∃ trace ended, (∀ fault, ended = .error fault → fault.isScript = true) ∧
      (ended = .ok () ↔ pending.failures outcome = []) ∧
      engine.step "wait\n" state = .ofEffect "wait" (State.record
        { state with toScene := (pending.handle.await state.toScene).1, background := [] }
        outcome.output, trace, ended) := by
  obtain ⟨collecting, result, joined, waited, outcomes, output, said⟩ :=
    state.join_single only known
  obtain ⟨begun, _, stepped⟩ := @step_join engine state joined waits alive (by rwa [waited])
  obtain ⟨trace, ended, _, script, expected, concluded⟩ :=
    conclude_spec .success state.join.1 joined
  refine ⟨begun ++ trace, ended, script, ?_, ?_⟩
  · rw [expected, ← said]
    cases joined.failure <;> simp [Script.Expect.failure?]
  · rw [stepped, concluded, waited, output]
    rfl

/-! ## The two ways -/

private theorem mapError_ok {ε ε' α : Type} (wrap : ε → ε') (result : α) :
    (Except.ok result).mapError wrap = .ok result := rfl

private theorem mapError_error {ε ε' α : Type} (wrap : ε → ε') (fault : ε) :
    (Except.error fault : Except ε α).mapError wrap = .error (wrap fault) := rfl

/-- A script ends as the effect of its last line. -/
structure Run.EndsBy (run : Run) (name : String) (effect : Effect) : Prop where
  state : run.state = effect.1
  ended : run.Ended name
  well : run.result = .ok () ↔ effect.2.2 = .ok ()

/-- What a last line comes to that is run and leaves nothing in the background: a fault of the
script is logged and names the line. -/
theorem Engine.runLines_last {engine : Engine} (name : String) (count : Nat) {raw text : String}
    {state : State} {effect : Effect} (stepped : engine.step raw state = .ofEffect text effect)
    (idle : effect.1.background = [])
    (script : ∀ fault, effect.2.2 = .error fault → fault.isScript = true) :
    let progress := engine.runLines name count [raw] state
    Run.after progress.trace (progress.ending.run name none progress.state) =
      ⟨effect.1,
        effect.2.1 ++ match effect.2.2 with
          | .ok () => []
          | .error fault => [.logged (.note fault.message)],
        effect.2.2.mapError (.execution name (count + 1) text)⟩ := by
  intro progress
  obtain ⟨after, trace, result⟩ := effect
  have nothing : after.background.isEmpty = true := List.isEmpty_iff.mpr idle
  cases result with
  | ok =>
    have next : engine.step raw state = ⟨after, trace, .next⟩ := stepped
    simp [progress, Engine.runLines, next, Progress.after, Ending.run, State.finish, nothing,
      Run.after, mapError_ok]
  | error fault =>
    have failed := stepped.trans (Step.ofEffect_script (script fault rfl) text after trace)
    simp [progress, Engine.runLines, failed, Ending.run, State.abandon, nothing, Run.after,
      mapError_error]

private theorem endsBy_of_effect {engine : Engine} (name : String) (count : Nat) {raw text : String}
    {state : State} {effect : Effect} (stepped : engine.step raw state = .ofEffect text effect)
    (idle : effect.1.background = [])
    (script : ∀ fault, effect.2.2 = .error fault → fault.isScript = true) :
    let progress := engine.runLines name count [raw] state
    (progress.ending.run name none progress.state).EndsBy name effect := by
  intro progress
  have last := Engine.runLines_last name count stepped idle script
  obtain ⟨after, trace, result⟩ := effect
  have left : (progress.ending.run name none progress.state).state = after :=
    congrArg Run.state last
  have ended : (progress.ending.run name none progress.state).result = result.mapError _ :=
    congrArg Run.result last
  cases result with
  | ok => exact ⟨left, .inl ended, by simp [ended, mapError_ok]⟩
  | error fault => exact ⟨left, .inr ⟨_, _, _, ended⟩, by simp [ended, mapError_error]⟩

private theorem endsBy_single {engine : Engine} (name : String) {raw text : String} {state : State}
    {effect : Effect} (stepped : engine.step raw (engine.attach state) = .ofEffect text effect)
    (idle : effect.1.background = [])
    (script : ∀ fault, effect.2.2 = .error fault → fault.isScript = true) :
    (engine.execute name (.ofLines [raw]) state).EndsBy name effect := by
  obtain ⟨same, ended, well⟩ := endsBy_of_effect name 0 stepped idle script
  exact ⟨same, ended, well⟩

private theorem endsBy_second {engine : Engine} (name : String) {first raw text : String}
    {state between : State} {begun : Trace} {effect : Effect}
    (sent : engine.step first (engine.attach state) = ⟨between, begun, .next⟩)
    (stepped : engine.step raw between = .ofEffect text effect) (idle : effect.1.background = [])
    (script : ∀ fault, effect.2.2 = .error fault → fault.isScript = true) :
    (engine.execute name (.ofLines [first, raw]) state).EndsBy name effect := by
  obtain ⟨same, ended, well⟩ := endsBy_of_effect name 1 stepped idle script
  have lines : engine.advance name [first, raw] state =
      .after begun (engine.runLines name 1 [raw] between) := by
    rw [Engine.advance, Engine.runLines, sent]
  rw [Engine.execute, Source.ofLines, lines]
  exact ⟨same, ended, well⟩

/-- A line without guards is read in a state that is not canceled and has nothing in the background.
Its command may run in the background; called, it comes to `after`, where that still holds, and
replies with a handle that ends in an outcome: output, or a failure of the command. -/
structure Detachable (engine : Engine) (line : Script.Line) (state after : State) (handle : Handle)
    (outcome : Outcome) : Prop where
  read : Script.Line.parse line.raw state.env.expand = .ok (some line)
  unguarded : line.guards = []
  foreground : line.background = false
  idle : state.background = []
  alive : state.isCanceled = false
  called : ∃ command, engine.commands.find? line.name = some command ∧
    command.usage.isAsync = true ∧
    command.run line.args (engine.attach state) = (after, .handle handle)
  still : after.background = []
  going : after.isCanceled = false
  known : Outcome.ofResult (handle.await after.toScene).2 = .ok outcome

/-- The state once the handle has ended: it has changed the scene, and the output is recorded. -/
def State.settled (after : State) (handle : Handle) (outcome : Outcome) : State :=
  State.record { after with toScene := (handle.await after.toScene).1 } outcome.output

/-- The state with just one line in the background. -/
def State.withPending (state : State) (pending : Pending) : State :=
  { state with background := [pending] }

namespace Detachable

variable {engine : Engine} {line : Script.Line} {state after : State} {handle : Handle}
  {outcome : Outcome} (sends : Detachable engine line state after handle outcome)
include sends

/-- In the foreground the line ends well if its outcome was expected. -/
private theorem step_foreground :
    ∃ trace ended, (∀ fault, ended = .error fault → fault.isScript = true) ∧
      (ended = .ok () ↔ line.want.failure? outcome.failure = none) ∧
      engine.step (line.raw ++ "\n") (engine.attach state) =
        .ofEffect line.raw (after.settled handle outcome, trace, ended) := by
  obtain ⟨command, found, _, replied⟩ := sends.called
  obtain ⟨happened, awaited⟩ := @State.await_idle after handle sends.still
  obtain ⟨trace, ended, _, script, expected, concluded⟩ := Engine.concludeResult_spec line.want
    { after with toScene := (handle.await after.toScene).1 } sends.known
  have called := Engine.runLine_called sends.unguarded found (by simp [sends.foreground]) replied
  have alive : (engine.attach state).isCanceled = false := sends.alive
  refine ⟨[.logged (.echo line.raw), .called line (.handle handle)] ++ (happened ++ trace), ended,
    script, expected, ?_⟩
  rw [Engine.step_read alive sends.read, called, Engine.handleReply,
    if_neg (by simp [sends.foreground])]
  simp only [awaited, concluded, Engine.Effect.after, State.settled]

/-- In the background the line leaves its handle there. -/
theorem step_background :
    ∃ trace, engine.step (line.raw ++ " &\n") (engine.attach state) =
      ⟨after.withPending ⟨line.raw ++ " &", handle, line.want⟩, trace, .next⟩ := by
  obtain ⟨command, found, async, replied⟩ := sends.called
  let marked : Script.Line := { line with raw := line.raw ++ " &", background := true }
  have kept : state.env.expand "&" = "&" := state.env.expand_of_plain (by decide)
  have read : Script.Line.parse marked.raw state.env.expand = .ok (some marked) :=
    Script.Line.parse_marked kept sends.read sends.foreground
  have called := @Engine.runLine_called engine marked _ _ _ _ sends.unguarded found
    (fun _ => async) replied
  have alive : (engine.attach state).isCanceled = false := sends.alive
  have shown : line.raw ++ " &\n" = marked.raw ++ "\n" := by simp [marked, String.append_assoc]
  refine ⟨[.logged (.echo marked.raw), .called marked (.handle handle)], ?_⟩
  rw [shown, Engine.step_read alive read, called, Engine.handleReply, if_pos rfl, sends.still]
  rfl

end Detachable

/-- Something is said of a line in the background just if its outcome was not expected, except that
a failure without a message leaves nothing to say. -/
theorem Pending.failures_iff (pending : Pending) (outcome : Outcome) :
    (pending.want.failure? outcome.failure = none ↔ pending.failures outcome = []) ↔
      ¬(pending.want = .success ∧
        ∃ failure, outcome.failure = some failure ∧ failure.message = "") := by
  rcases pending with ⟨line, handle, want⟩
  have spoken : Failure.unexpectedSuccess.message.isEmpty = false := rfl
  rcases outcome with ⟨output, _ | failure⟩
  · cases want <;> simp [failures, Script.Expect.failure?, spoken]
  · cases want <;> simp [failures, Script.Expect.failure?]

/-- The scripts of a line in the foreground and of the same line in the background with a wait
behind it leave the same state. The first ends well if the outcome was expected, the second if there
is nothing to say of the line. -/
theorem Detachable.both {engine : Engine} {line : Script.Line} {state after : State}
    {handle : Handle} {outcome : Outcome}
    (sends : Detachable engine line state after handle outcome) (name : String)
    (waits : ∃ usage, engine.commands.find? "wait" = some (Builtin.looking usage Builtin.wait)) :
    let fore := engine.execute name (.ofLines [line.raw ++ "\n"]) state
    let back := engine.execute name (.ofLines [line.raw ++ " &\n", "wait\n"]) state
    fore.Ended name ∧ back.Ended name ∧ back.state = fore.state ∧ fore.state.background = [] ∧
      (fore.result = .ok () ↔ line.want.failure? outcome.failure = none) ∧
      (back.result = .ok () ↔
        Pending.failures ⟨line.raw ++ " &", handle, line.want⟩ outcome = []) := by
  intro fore back
  obtain ⟨_, ended, script, expected, stepped⟩ := sends.step_foreground
  obtain ⟨begun, sent⟩ := sends.step_background
  let pending : Pending := ⟨line.raw ++ " &", handle, line.want⟩
  obtain ⟨_, joined, settled, said, waited⟩ := @Engine.step_wait engine (after.withPending pending)
    pending outcome waits sends.going rfl sends.known
  have emptied : (after.settled handle outcome).background = [] := sends.still
  obtain ⟨foreState, foreEnded, foreWell⟩ := endsBy_single name stepped emptied script
  obtain ⟨backState, backEnded, backWell⟩ := endsBy_second name sent waited rfl settled
  have same : back.state = fore.state := by
    rw [foreState, backState, State.settled, sends.still]
    rfl
  refine ⟨foreEnded, backEnded, same, ?_, foreWell.trans expected, backWell.trans said⟩
  rw [foreState]
  exact emptied

/-- A line in the foreground, and the same line in the background with a wait behind it, leave the
same state, with nothing in the background. Either both scripts end well or both fail, unless
success was expected and the command failed without a message: then only the first one fails. -/
theorem Engine.execute_marked {engine : Engine} {line : Script.Line} {state after : State}
    {handle : Handle} {outcome : Outcome} (name : String)
    (sends : Detachable engine line state after handle outcome)
    (waits : ∃ usage, engine.commands.find? "wait" = some (Builtin.looking usage Builtin.wait)) :
    let fore := engine.execute name (.ofLines [line.raw ++ "\n"]) state
    let back := engine.execute name (.ofLines [line.raw ++ " &\n", "wait\n"]) state
    fore.Ended name ∧ back.Ended name ∧ back.state = fore.state ∧ fore.state.background = [] ∧
      ((fore.result = .ok () ↔ back.result = .ok ()) ↔ ¬(line.want = .success ∧
        ∃ failure, outcome.failure = some failure ∧ failure.message = "")) := by
  intro fore back
  obtain ⟨foreEnded, backEnded, same, idle, foreWell, backWell⟩ := sends.both name waits
  refine ⟨foreEnded, backEnded, same, idle, ?_⟩
  rw [foreWell, backWell]
  exact Pending.failures_iff ⟨line.raw ++ " &", handle, line.want⟩ outcome

/-! ## A failure without a message -/

/-- A command whose handle fails with the message and the output given. -/
def failingLater : Command where
  usage := ⟨"always fails later", "msg out err", [], true⟩
  act := fun args state => (state, .handle (.task fun scene =>
    (scene, .error (.command (.worded (args.getD 0 "")) ⟨args.getD 1 "", args.getD 2 ""⟩))))

def failingEngine : Engine :=
  ⟨⟨[("booma", failingLater), ("wait", Builtin.looking ⟨"", "", [], false⟩ Builtin.wait)]⟩, .empty⟩

theorem failingEngine_find {name : String} {command : Command}
    (found : failingEngine.commands.find? name = some command) :
    name = "booma" ∧ command = failingLater ∨
      name = "wait" ∧ command = Builtin.looking ⟨"", "", [], false⟩ Builtin.wait := by
  simpa [failingEngine] using Table.mem_of_find? found

def failingLine (raw message : String) : Script.Line :=
  ⟨raw, "booma", [message, "out", "err"], [], .success, false⟩

theorem detachable_failing {raw message : String} (trimmed : Text.Trimmed raw.toList)
    (visible : ∃ c cs, raw.toList = c :: cs ∧ c ≠ '#')
    (words : Script.rawWords raw = .ok [[.plain "booma".toList], [.quoted message.toList],
      [.plain "out".toList], [.plain "err".toList]]) :
    let state := State.start .empty "/" .empty
    Detachable failingEngine (failingLine raw message) state (failingEngine.attach state)
      (.task fun scene => (scene, .error (.command (.worded message) ⟨"out", "err"⟩)))
      ⟨⟨"out", "err"⟩, some (.worded message)⟩ := by
  intro state
  have split : Script.splitWords raw state.env.expand =
      .ok [⟨"booma", false⟩, ⟨message, true⟩, ⟨"out", false⟩, ⟨"err", false⟩] := by
    rw [Script.splitWords_of_plain words (by simp)]
    simp [Script.Word.ofSegments, Script.Segment.text, Script.Segment.isQuoted]
  refine ⟨?_, rfl, rfl, rfl, rfl, ⟨failingLater, rfl, rfl, rfl⟩, rfl, rfl, rfl⟩
  exact Script.Line.parse_trimmed trimmed visible split rfl

/-- A failure with a message fails both scripts. -/
theorem Engine.execute_marked_worded :
    let line := failingLine "booma 'no' out err" "no"
    let state := State.start .empty "/" .empty
    let fore := failingEngine.execute "s" (.ofLines ["booma 'no' out err\n"]) state
    let back := failingEngine.execute "s" (.ofLines ["booma 'no' out err &\n", "wait\n"]) state
    line.want = .success ∧ back.state = fore.state ∧
      (fore.result = .ok () ↔ back.result = .ok ()) := by
  intro line state fore back
  have sends := @detachable_failing "booma 'no' out err" "no"
    (Text.trimmed_framed (by decide) (by decide) "ooma 'no' out er".toList)
    ⟨'b', _, rfl, by decide⟩ rfl
  obtain ⟨_, _, same, _, agree⟩ := execute_marked "s" sends ⟨_, rfl⟩
  refine ⟨rfl, same, agree.mpr ?_⟩
  rintro ⟨_, failure, ⟨⟩, empty⟩
  exact absurd empty (by decide)

/-- A failure without a message fails the script in the foreground and passes in the background. -/
theorem Engine.execute_marked_silent :
    let state := State.start .empty "/" .empty
    let fore := failingEngine.execute "s" (.ofLines ["booma '' out err\n"]) state
    let back := failingEngine.execute "s" (.ofLines ["booma '' out err &\n", "wait\n"]) state
    fore.result ≠ .ok () ∧ back.result = .ok () := by
  intro state fore back
  have sends := @detachable_failing "booma '' out err" ""
    (Text.trimmed_framed (by decide) (by decide) "ooma '' out er".toList)
    ⟨'b', _, rfl, by decide⟩ rfl
  obtain ⟨_, _, _, _, foreWell, backWell⟩ := sends.both "s" ⟨_, rfl⟩
  refine ⟨?_, backWell.mpr rfl⟩
  intro well
  cases foreWell.mp well

end LineScript
