import LineScript.Proofs.Background
import LineScript.Proofs.Moves

/-!
# What scripts leave in the background
A script whose lines end well, stop or fail leaves nothing in the background: what was started has
been awaited. Where reading the script fails, or a fault escapes that is none of scripts, nobody
cleans up: what the lines have left in the background stays there (`execute_clears`). Commands may
raise whatever they want, but their handles end in output or in failures of their commands.
-/
namespace LineScript

/-! ## Commands whose handles are awaited safely -/

/-- A handle that ends in output or in a failure of its command. A wait does where those that it
collects do. -/
def Handle.Telling : Handle → Prop
  | .task run => ∀ scene, Told (run scene).2
  | .join => True

/-- An engine whose commands do not touch the background themselves. -/
def Engine.Aloof (engine : Engine) : Prop :=
  ∀ name command, engine.commands.find? name = some command →
    ∀ args state, (command.run args state).1.background = state.background

theorem Handle.Telling.await {handle : Handle} (telling : handle.Telling) (scene : Scene) :
    Told (handle.await scene).2 := by
  cases handle with
  | task run => exact telling scene
  | join => rintro _ ⟨⟩

/-! ## Waiting for the background -/

theorem awaitAll_telling (pending : List Pending) (scene : Scene)
    (telling : ∀ one ∈ pending, one.handle.Telling) :
    let all := awaitAll pending scene
    all.2.1.sent = [] ∧ all.2.1.collected = pending.map (·.handle) ∧
      ∃ joined, all.2.2 = .ok joined := by
  induction pending generalizing scene with
  | nil => exact ⟨rfl, rfl, _, rfl⟩
  | cons first rest ih =>
    obtain ⟨outcome, known, _⟩ := ((telling first (by simp)).await scene).outcome
    rw [awaitAll_of_ok known]
    obtain ⟨sent, collected, joined, result⟩ := ih (first.handle.await scene).1 fun one member =>
      telling one (List.mem_cons_of_mem _ member)
    exact ⟨sent, congrArg (first.handle :: ·) collected, _, by simp only [result]; rfl⟩

/-- Whatever a wait ends in, it has collected from the front and sent nothing. -/
theorem awaitAll_collects (pending : List Pending) (scene : Scene) :
    (awaitAll pending scene).2.1.sent = [] ∧
      (awaitAll pending scene).2.1.collected <+: pending.map (·.handle) := by
  induction pending generalizing scene with
  | nil => exact ⟨rfl, List.prefix_refl _⟩
  | cons first rest ih =>
    cases known : Outcome.ofResult (first.handle.await scene).2 with
    | error fault =>
      rw [awaitAll_of_error known]
      exact ⟨rfl, _, rfl⟩
    | ok outcome =>
      obtain ⟨sent, front⟩ := ih (first.handle.await scene).1
      rw [awaitAll_of_ok known]
      exact ⟨sent, List.cons_prefix_cons.mpr ⟨rfl, front⟩⟩

namespace State

/-- A wait for the background collects all of it, and ends in output or in a failure of commands. -/
theorem join_telling {state : State} (telling : state.Holds Handle.Telling) :
    state.join.2.1.sent = [] ∧ state.join.2.1.collected = state.outstanding ∧
      state.join.1.background = [] ∧ Told state.join.2.2 := by
  obtain ⟨sent, collected, ⟨output, failures⟩, result⟩ :=
    awaitAll_telling state.background state.toScene fun one member =>
      telling _ (List.mem_map_of_mem member)
  refine ⟨sent, collected, rfl, ?_⟩
  simp only [join, result]
  cases failures with
  | nil => rintro _ ⟨⟩
  | cons failure more =>
    rintro _ ⟨⟩
    exact ⟨_, _, rfl⟩

end State

/-! ## What moves do to the background -/

namespace Engine

variable {engine : Engine} {state after : State} {trace : Trace}

theorem Aloof.outstanding (aloof : engine.Aloof) {line : Script.Line} {command : Command}
    {reply : Reply} (found : engine.commands.find? line.name = some command)
    (replied : command.run line.args state = (after, reply)) :
    after.outstanding = state.outstanding := by
  have background := aloof _ _ found line.args state
  rw [replied] at background
  exact congrArg (List.map _) background

/-- The background is a queue: what is sent comes behind, and what goes, goes from the front. What
is known of each wait, of what it collects and what it finds, is known of all moves. -/
theorem Moves.queue {kind : Handle → Prop} (known : List Handle → List Handle → Prop)
    (hands : engine.Hands kind) (aloof : engine.Aloof) (nothing : known [] [])
    (append : ∀ first second third fourth, known first second → known third fourth →
      known (first ++ third) (second ++ fourth))
    (waits : ∀ state : State, state.Holds kind → known state.join.2.1.collected state.outstanding)
    (moves : engine.Moves state trace after) (holds : state.Holds kind) :
    ∃ gone, known trace.collected gone ∧
      state.outstanding ++ trace.sent = gone ++ after.outstanding := by
  -- Only a wait takes anything from the queue.
  induction moves with
  | quiet state quiet =>
    obtain ⟨_, _, sent, collected, _⟩ := quiet.views
    exact ⟨[], by rwa [collected], by simp [sent]⟩
  | attach | note | record => exact ⟨[], nothing, List.append_nil _⟩
  | @call line command state after reply found replied plain =>
    have sent : Trace.sent [.called line reply] = [] := by
      cases reply with
      | done => rfl
      | fault fault => rfl
      | handle handle => exact absurd rfl (plain handle)
    refine ⟨[], nothing, ?_⟩
    rw [aloof.outstanding found replied, sent, List.append_nil]
    rfl
  | @send line command state after handle found replied placed =>
    have sent : Trace.sent [.called line (.handle handle)] = [handle] := by
      simp [Trace.sent, placed]
    refine ⟨[], nothing, ?_⟩
    rw [State.outstanding_send, aloof.outstanding found replied, sent]
    rfl
  | @await line command state after run found replied placed =>
    have still := aloof.outstanding found replied
    exact ⟨[], nothing, by simpa [Trace.sent, State.outstanding, placed] using still.symm⟩
  | @wait line command state after result found replied placed =>
    have still := aloof.outstanding found replied
    exact ⟨[], nothing, by simpa [Trace.sent, placed] using still.symm⟩
  | join state =>
    have sent : state.join.2.1.sent = [] := (awaitAll_collects state.background state.toScene).1
    have emptied : state.join.1.outstanding = [] := rfl
    exact ⟨_, waits state holds, by rw [sent, emptied]⟩
  | @trans state between after first second early late ihFirst ihSecond =>
    obtain ⟨gone, front, row⟩ := ihFirst holds
    obtain ⟨more, behind, next⟩ := ihSecond (early.holds hands holds)
    refine ⟨gone ++ more, ?_, ?_⟩
    · rw [Trace.collected_append]
      exact append _ _ _ _ front behind
    · rw [Trace.sent_append, ← List.append_assoc, row, List.append_assoc, next, List.append_assoc]

/-- Handles that end in output or in failures of their commands are all collected when they go. -/
theorem Moves.queued (kind : engine.Hands Handle.Telling) (aloof : engine.Aloof)
    (moves : engine.Moves state trace after) (telling : state.Holds Handle.Telling) :
    state.outstanding ++ trace.sent = trace.collected ++ after.outstanding := by
  have append (first second third fourth : List Handle) (front : first = second)
      (behind : third = fourth) : first ++ third = second ++ fourth := by rw [front, behind]
  obtain ⟨gone, rfl, row⟩ := moves.queue Eq kind aloof rfl append
    (fun state telling => (State.join_telling telling).2.1) telling
  exact row

end Engine

/-! ## Ends of scripts -/

/-- The engine notices how the lines ended: reading did not fail behind them, unless by an execution
fault, and no fault escaped that is none of scripts. -/
def Ending.isCaught (failure : Option Fault) : Ending → Bool
  | .finished _ => failure.all Fault.isExecution
  | .stopped _ => true
  | .failed _ _ _ => true
  | .escaped _ => false

namespace State

theorem finish_clears {state : State} (telling : state.Holds Handle.Telling) (name : String)
    (lineno : Nat) :
    (state.finish name lineno).state.background = [] ∧ (state.finish name lineno).Ended name := by
  have ends := state.finishes name lineno
  obtain ⟨_, _, emptied, told⟩ := join_telling telling
  generalize state.finish name lineno = run at ends ⊢
  cases ends with
  | idle nothing => exact ⟨nothing, .inl rfl⟩
  | ended => exact ⟨emptied, .inl rfl⟩
  | failed => exact ⟨emptied, .inr ⟨lineno, "wait", _, rfl⟩⟩
  | broken joined foreign =>
    obtain ⟨failure, output, rfl⟩ := told _ joined
    cases foreign

theorem abandon_clears {state : State} (telling : state.Holds Handle.Telling) (fault : Fault) :
    (state.abandon fault).state.background = [] ∧ (state.abandon fault).result = .error fault := by
  have ends := state.abandons fault
  obtain ⟨_, _, emptied, told⟩ := join_telling telling
  generalize state.abandon fault = run at ends ⊢
  cases ends with
  | idle nothing => exact ⟨nothing, rfl⟩
  | ended => exact ⟨emptied, rfl⟩
  | failed => exact ⟨emptied, rfl⟩
  | broken joined foreign =>
    obtain ⟨failure, output, rfl⟩ := told _ joined
    cases foreign

end State

namespace Ending

/-- After an end that the engine notices, the background is empty. -/
theorem run_of_caught {state : State} (telling : state.Holds Handle.Telling) (name : String)
    {failure : Option Fault} {ending : Ending} (caught : ending.isCaught failure = true) :
    (ending.run name failure state).state.background = [] ∧
      ((ending.run name failure state).Ended name ∨ ∃ fault, failure = some fault ∧
        fault.isExecution = true ∧ (ending.run name failure state).result = .error fault) := by
  cases ending with
  | finished lineno => cases failure with
    | none =>
      obtain ⟨emptied, ended⟩ := state.finish_clears telling name lineno
      exact ⟨emptied, .inl ended⟩
    | some fault =>
      have execution : fault.isExecution = true := caught
      obtain ⟨emptied, failed⟩ := state.abandon_clears telling fault
      simp only [run, State.interrupt, if_pos execution]
      exact ⟨emptied, .inr ⟨fault, rfl, execution, failed⟩⟩
  | stopped lineno =>
    obtain ⟨emptied, ended⟩ := state.finish_clears telling name lineno
    exact ⟨emptied, .inl ended⟩
  | failed lineno text cause =>
    obtain ⟨emptied, failed⟩ := state.abandon_clears telling (.execution name lineno text cause)
    exact ⟨emptied, .inl (.inr ⟨lineno, text, cause, failed⟩)⟩
  | escaped fault => cases caught

/-- Any other end leaves everything as it is, and passes the fault on. -/
theorem run_of_uncaught (state : State) (name : String) {failure : Option Fault} {ending : Ending}
    (uncaught : ending.isCaught failure = false) : ∃ fault,
      ending.run name failure state = ⟨state, [], .error fault⟩ ∧
        (failure = some fault ∨ ending = .escaped fault) := by
  cases ending with
  | finished lineno => cases failure with
    | none => cases uncaught
    | some fault =>
      have raised : fault.isExecution = false := uncaught
      exact ⟨fault, by simp [run, State.interrupt, raised], .inl rfl⟩
  | stopped lineno => cases uncaught
  | failed lineno text cause => cases uncaught
  | escaped fault => exact ⟨fault, rfl, .inr rfl⟩

end Ending

/-- The background is empty when the script has ended if the engine notices how the lines ended, and
then the script ends well or in an execution fault. Otherwise all that the lines have left
stays there, and the fault in reading, or the one that escaped, is passed on. Whatever was sent into
the background is collected from there once and in order, or still there. -/
theorem Engine.execute_clears (engine : Engine) (kind : engine.Hands Handle.Telling) (name : String)
    (source : Source) (state : State) (telling : state.Holds Handle.Telling) :
    let progress := engine.advance name source.lines state
    let run := engine.execute name source state
    (run.state.background = [] ↔
        progress.ending.isCaught source.failure = true ∨ progress.state.background = []) ∧
      (engine.Aloof →
        state.outstanding ++ run.trace.sent = run.trace.collected ++ run.state.outstanding) ∧
      if progress.ending.isCaught source.failure then
        run.Ended name ∨ ∃ fault, source.failure = some fault ∧ fault.isExecution = true ∧
          run.result = .error fault
      else ∃ fault, run = ⟨progress.state, progress.trace, .error fault⟩ ∧
        (source.failure = some fault ∨ progress.ending = .escaped fault) := by
  intro progress run
  have lines : progress.state.Holds Handle.Telling :=
    (engine.advance_moves name source.lines state).holds kind telling
  have queued (aloof : engine.Aloof) :=
    (engine.execute_moves name source state).queued kind aloof telling
  cases caught : progress.ending.isCaught source.failure with
  | true =>
    obtain ⟨emptied, ended⟩ := Ending.run_of_caught lines name caught
    exact ⟨⟨fun _ => .inl rfl, fun _ => emptied⟩, queued, ended⟩
  | false =>
    obtain ⟨fault, left, origin⟩ := Ending.run_of_uncaught progress.state name caught
    have same : run = ⟨progress.state, progress.trace, .error fault⟩ := by
      simp only [run, execute]
      rw [left]
      simp [Run.after, progress]
    refine ⟨?_, queued, fault, same, origin⟩
    rw [same]
    simp

/-! ## A script that cannot be read to its end -/

/-- A command that puts out its first two arguments later. -/
def emittingLater : Command where
  usage := ⟨"write both streams later", "out err", [], true⟩
  act := fun args state => (state, .handle (.known ⟨args.getD 0 "", args.getD 1 ""⟩))

theorem telling_emittingLater : emittingLater.Hands Handle.Telling := by
  refine ⟨fun _ _ telling => telling, ?_⟩
  rintro args state _ ⟨⟩ scene
  rintro _ ⟨⟩

/-- An engine that knows this command only. -/
def emitting : Engine := ⟨⟨[("emita", emittingLater)]⟩, .empty⟩

theorem telling_emitting : emitting.Hands Handle.Telling := by
  intro name command found
  obtain ⟨rfl, rfl⟩ : name = _ ∧ command = _ := by simpa [emitting] using Table.mem_of_find? found
  exact telling_emittingLater

/-- What its line sends into the background. -/
def emitted : Pending := ⟨"emita a b &", .known ⟨"a", "b"⟩, .success⟩

/-- A line of the script sends its handle into the background. -/
theorem Engine.step_emitting {engine : Engine} {state : State}
    (knows : engine.commands.find? "emita" = some emittingLater)
    (alive : state.isCanceled = false) :
    ∃ trace : Trace, trace.sent = [emitted.handle] ∧ trace.collected = [] ∧
      engine.step "emita a b &\n" state =
        ⟨{ state with background := state.background ++ [emitted] }, trace, .next⟩ := by
  let line : Script.Line := ⟨"emita a b &", "emita", ["a", "b"], [], .success, true⟩
  have words : Script.rawWords "emita a b &" = .ok [[.plain "emita".toList], [.plain "a".toList],
    [.plain "b".toList], [.plain "&".toList]] := rfl
  have shape : "emita a b &".toList = 'e' :: ("mita a b ".toList ++ ['&']) := rfl
  have read : Script.Line.parse "emita a b &" state.env.expand = .ok (some line) :=
    Script.Line.parse_plain shape (by decide) (by decide) (by decide) words (by simp) rfl state.env
  have called := @step_called engine line state state emittingLater (.handle emitted.handle) alive
    read rfl knows (fun _ => rfl) rfl
  have raw : "emita a b &\n" = line.raw ++ "\n" := rfl
  refine ⟨[.logged (.echo line.raw), .called line (.handle emitted.handle)], rfl, rfl, ?_⟩
  rw [raw, called]
  rfl

private theorem advance_emitting (state : State) (alive : state.isCanceled = false) :
    ∃ trace, trace.sent = [emitted.handle] ∧ trace.collected = [] ∧
      emitting.advance "s" ["emita a b &\n"] state =
        ⟨{ emitting.attach state with background := state.background ++ [emitted] }, trace,
          .finished 1⟩ := by
  obtain ⟨trace, sent, collected, stepped⟩ :=
    @Engine.step_emitting emitting (emitting.attach state) rfl alive
  rw [Engine.advance, Engine.runLines, stepped]
  exact ⟨trace, sent, collected, by simp [Engine.runLines, Progress.after, Engine.attach]⟩

/-- Where the whole script is read, the command in the background is awaited. -/
theorem Engine.execute_clears_read :
    let state := State.start .empty "/" .empty
    let run := emitting.execute "s" (.ofLines ["emita a b &\n"]) state
    emitting.Hands Handle.Telling ∧ state.Holds Handle.Telling ∧ run.state.background = [] ∧
      run.Ended "s" := by
  intro state run
  have telling : state.Holds Handle.Telling := by
    simp [State.Holds, State.outstanding, state, State.start]
  obtain ⟨cleared, _, ended⟩ := emitting.execute_clears telling_emitting "s"
    (.ofLines ["emita a b &\n"]) state telling
  obtain ⟨trace, _, _, advanced⟩ := advance_emitting state rfl
  simp only [Source.ofLines, advanced] at cleared ended
  obtain ended | ⟨fault, unread, _⟩ := ended
  · exact ⟨telling_emitting, telling, cleared.mpr (.inl rfl), ended⟩
  · cases unread

/-- Where reading fails behind its line, the command stays in the background and is not awaited. -/
theorem Engine.execute_clears_not_unread :
    let state := State.start .empty "/" .empty
    let failure := Fault.system (.worded 5 "Input/output error")
    let run := emitting.execute "s" ⟨["emita a b &\n"], some failure⟩ state
    emitting.Hands Handle.Telling ∧ state.background = [] ∧
      run.state.background ≠ [] ∧ run.trace.sent ≠ run.trace.collected := by
  intro state failure run
  obtain ⟨trace, sent, collected, advanced⟩ := advance_emitting state rfl
  have left : run =
      ⟨{ emitting.attach state with background := [emitted] }, trace, .error failure⟩ := by
    simp only [run, execute, advanced]
    simp [Run.after, Ending.run, State.interrupt, Fault.isExecution, failure, state, State.start]
  rw [left]
  exact ⟨telling_emitting, rfl, by simp, by simp [sent, collected]⟩

end LineScript
