import LineScript.Proofs.Journal
import LineScript.Proofs.Leftovers
import LineScript.Proofs.ScopeTree

/-!
# Nothing runs in a canceled scope
Once the scope of a script is canceled, or one above it, no command is called and no guard is
evaluated any more, neither by the script nor by any that comes later; the next line that is read
ends its script (`execute_halts`). What the script has left in the background is still awaited then:
the failure stays the one of the line if those handles end as they should, and what was recorded
stays as it was if they leave it alone.
-/
namespace LineScript

/-! ## Traces without calls -/

namespace Trace

/-- No command is called and no guard is evaluated. -/
def Passive (trace : Trace) : Prop := trace.calls = [] ∧ trace.tests = []

theorem passive_nil : Passive [] := ⟨rfl, rfl⟩

theorem Passive.append {first second : Trace} (early : first.Passive) (late : second.Passive) :
    (first ++ second).Passive := by
  constructor
  · rw [calls, List.filterMap_append]
    exact List.append_eq_nil_iff.mpr ⟨early.1, late.1⟩
  · rw [tests, List.filterMap_append]
    exact List.append_eq_nil_iff.mpr ⟨early.2, late.2⟩

theorem passive_ofEntries (entries : List Entry) : (ofEntries entries).Passive := by
  constructor
  · simp [calls, ofEntries]
  · simp [tests, ofEntries]

theorem Quiet.calls {trace : Trace} (quiet : trace.Quiet) : trace.calls = [] := by
  rw [Trace.calls, List.filterMap_eq_nil_iff]
  intro event member
  have silent := quiet event member
  cases event with
  | called line reply => cases silent
  | _ => rfl

end Trace

open Trace

theorem awaitAll_passive (pending : List Pending) (scene : Scene) :
    (awaitAll pending scene).2.1.Passive := by
  induction pending generalizing scene with
  | nil => exact passive_nil
  | cons first rest ih =>
    cases known : Outcome.ofResult (first.handle.await scene).2 with
    | error fault =>
      rw [awaitAll_of_error known]
      exact ⟨rfl, rfl⟩
    | ok outcome =>
      rw [awaitAll_of_ok known]
      exact ih _

namespace State

theorem join_passive (state : State) : state.join.2.1.Passive :=
  awaitAll_passive state.background state.toScene

theorem await_passive (state : State) (handle : Handle) : (state.await handle).2.1.Passive := by
  cases handle with
  | task run => exact ⟨rfl, rfl⟩
  | join => exact state.join_passive

theorem finish_passive (state : State) (name : String) (lineno : Nat) :
    (state.finish name lineno).trace.Passive := by
  have ends := state.finishes name lineno
  generalize state.finish name lineno = run at ends ⊢
  cases ends with
  | idle => exact passive_nil
  | ended => exact state.join_passive.append (passive_ofEntries _)
  | failed => exact state.join_passive.append (passive_ofEntries _)
  | broken => exact state.join_passive

theorem abandon_passive (state : State) (fault : Fault) : (state.abandon fault).trace.Passive := by
  have ends := state.abandons fault
  generalize state.abandon fault = run at ends ⊢
  cases ends with
  | idle => exact passive_nil
  | ended => exact state.join_passive
  | failed => exact state.join_passive.append ⟨rfl, rfl⟩
  | broken => exact state.join_passive

theorem interrupt_passive (state : State) (fault : Fault) :
    (state.interrupt fault).trace.Passive := by
  rcases state.interrupt_cases fault with ⟨_, ended⟩ | ⟨_, ended⟩
  · rw [ended]
    exact state.abandon_passive fault
  · rw [ended]
    exact passive_nil

end State

theorem Ending.run_passive (ending : Ending) (name : String) (failure : Option Fault)
    (state : State) : (ending.run name failure state).trace.Passive := by
  cases ending with
  | finished lineno => cases failure with
    | none => exact state.finish_passive name lineno
    | some fault => exact state.interrupt_passive fault
  | stopped lineno => exact state.finish_passive name lineno
  | failed lineno text cause => exact state.abandon_passive _
  | escaped fault => exact passive_nil

namespace Engine

theorem concludeFault_passive (want : Script.Expect) (state : State) (fault : Fault) :
    (concludeFault want state fault).2.1.Passive := by
  unfold concludeFault
  split
  · exact passive_ofEntries _
  · exact passive_nil

theorem concludeResult_passive (want : Script.Expect) (state : State)
    (result : Except Fault Output) : (concludeResult want state result).2.1.Passive := by
  cases result with
  | ok output => exact passive_ofEntries _
  | error fault => exact concludeFault_passive want state fault

/-- After its call a line only deals with what the command has replied. -/
theorem handleReply_passive (line : Script.Line) (state : State) (reply : Reply) :
    (handleReply line state reply).2.1.Passive := by
  cases reply with
  | done => exact passive_nil
  | fault fault => exact concludeFault_passive line.want state fault
  | handle handle =>
    rw [handleReply]
    by_cases background : line.background = true
    · rw [if_pos background]
      exact passive_nil
    · rw [if_neg background]
      exact (state.await_passive handle).append (concludeResult_passive line.want _ _)

end Engine

/-! ## What handles keep -/

/-- The scope of the scene was canceled, or one was that it stands under. -/
def Scene.Revoked (scene : Scene) : Prop := scene.scopes.Revoked scene.scope

theorem Scene.isCanceled_iff (scene : Scene) : scene.isCanceled = true ↔ scene.Revoked :=
  scene.scopes.isCanceled_iff scene.scope

/-- A handle that leaves its script in its scope, and does with scopes what can be done with them. A
wait does where those do that it collects. -/
def Handle.Orderly : Handle → Prop
  | .task run => ∀ scene : Scene, (run scene).1.scope = scene.scope ∧
      ∃ changes, (run scene).1.scopes = scene.scopes.changed changes
  | .join => True

/-- The same directory, environment and output in two scenes. -/
structure Scene.SameRecord (scene other : Scene) : Prop where
  pwd : other.pwd = scene.pwd
  env : other.env = scene.env
  written : other.written = scene.written
  last : other.last = scene.last

/-- A handle that leaves directory, environment and output to its script. A wait does where those do
that it collects. -/
def Handle.Steady : Handle → Prop
  | .task run => ∀ scene : Scene, scene.SameRecord (run scene).1
  | .join => True

theorem Scene.SameRecord.refl (scene : Scene) : scene.SameRecord scene := ⟨rfl, rfl, rfl, rfl⟩

theorem Scene.SameRecord.trans {scene between after : Scene} (early : scene.SameRecord between)
    (late : between.SameRecord after) : scene.SameRecord after :=
  ⟨late.pwd.trans early.pwd, late.env.trans early.env, late.written.trans early.written,
    late.last.trans early.last⟩

/-- A handle that keeps order takes back no cancellation. -/
theorem Handle.Orderly.await {handle : Handle} (orderly : handle.Orderly) {scene : Scene}
    (revoked : scene.Revoked) : (handle.await scene).1.Revoked := by
  cases handle with
  | join => exact revoked
  | task run =>
    obtain ⟨scope, changes, scopes⟩ := orderly scene
    have still := Scopes.Revoked.changed revoked changes
    rwa [← scopes, ← scope] at still

theorem Handle.Steady.await {handle : Handle} (steady : handle.Steady) (scene : Scene) :
    scene.SameRecord (handle.await scene).1 := by
  cases handle with
  | join => exact .refl scene
  | task run => exact steady scene

namespace State

variable {state : State}

theorem join_revoked (orderly : state.Holds Handle.Orderly) (revoked : state.Revoked) :
    state.join.1.Revoked :=
  orderly.join Scene.Revoked (fun _ own _ revoked => own.await revoked) revoked

theorem await_revoked (orderly : state.Holds Handle.Orderly) {handle : Handle}
    (own : handle.Orderly) (revoked : state.Revoked) : (state.await handle).1.Revoked := by
  cases handle with
  | task run => exact own.await revoked
  | join => exact join_revoked orderly revoked

theorem finish_revoked (orderly : state.Holds Handle.Orderly) (revoked : state.Revoked)
    (name : String) (lineno : Nat) : (state.finish name lineno).state.Revoked := by
  have joined := join_revoked orderly revoked
  have ends := state.finishes name lineno
  generalize state.finish name lineno = run at ends ⊢
  cases ends with
  | idle => exact revoked
  | ended => exact joined
  | failed => exact joined
  | broken => exact joined

/-- What a failed script does about its background keeps what awaiting the handles keeps. -/
theorem abandon_keeps {kept : Scene → Prop} (fault : Fault) (before : kept state.toScene)
    (joined : kept state.join.1.toScene) : kept (state.abandon fault).state.toScene := by
  have ends := state.abandons fault
  generalize state.abandon fault = run at ends ⊢
  cases ends with
  | idle => exact before
  | ended => exact joined
  | failed => exact joined
  | broken => exact joined

theorem interrupt_keeps {kept : Scene → Prop} (fault : Fault) (before : kept state.toScene)
    (joined : kept state.join.1.toScene) : kept (state.interrupt fault).state.toScene := by
  rcases state.interrupt_cases fault with ⟨_, ended⟩ | ⟨_, ended⟩
  · rw [ended]
    exact abandon_keeps fault before joined
  · rw [ended]
    exact before

theorem abandon_steady (steady : state.Holds Handle.Steady) (fault : Fault) :
    state.SameRecord (state.abandon fault).state.toScene := by
  have joined := steady.join state.SameRecord
    (fun _ own scene same => same.trans (own.await scene)) (.refl _)
  exact abandon_keeps fault (.refl _) joined

end State

theorem Ending.run_revoked {state : State} (orderly : state.Holds Handle.Orderly)
    (revoked : state.Revoked) (ending : Ending) (name : String) (failure : Option Fault) :
    (ending.run name failure state).state.Revoked := by
  cases ending with
  | finished lineno => cases failure with
    | none => exact state.finish_revoked orderly revoked name lineno
    | some fault => exact state.interrupt_keeps fault revoked (state.join_revoked orderly revoked)
  | stopped lineno => exact state.finish_revoked orderly revoked name lineno
  | failed lineno text cause =>
    exact state.abandon_keeps _ revoked (state.join_revoked orderly revoked)
  | escaped fault => exact revoked

namespace Engine

theorem concludeFault_revoked {state : State} (revoked : state.Revoked) (want : Script.Expect)
    (fault : Fault) : (concludeFault want state fault).1.Revoked := by
  unfold concludeFault
  split
  · exact revoked
  · exact revoked

theorem concludeResult_revoked {state : State} (revoked : state.Revoked) (want : Script.Expect)
    (result : Except Fault Output) : (concludeResult want state result).1.Revoked := by
  cases result with
  | ok output => exact revoked
  | error fault => exact concludeFault_revoked revoked want fault

theorem handleReply_revoked {line : Script.Line} {state : State} {reply : Reply}
    (orderly : state.Holds Handle.Orderly) (own : ∀ handle, reply = .handle handle → handle.Orderly)
    (revoked : state.Revoked) : (handleReply line state reply).1.Revoked := by
  cases reply with
  | done => exact revoked
  | fault fault => exact concludeFault_revoked revoked line.want fault
  | handle handle =>
    rw [handleReply]
    by_cases background : line.background = true
    · rw [if_pos background]
      exact revoked
    · rw [if_neg background]
      have awaited := state.await_revoked orderly (own handle rfl) revoked
      exact concludeResult_revoked awaited line.want _

end Engine

/-! ## Lines -/

namespace Engine

/-- A line that calls no command leaves the state as it is. One that does calls it behind its
guards, and behind the call nothing is called or evaluated; if the command leaves a canceled scope,
so does the line. -/
def CallsLast (engine : Engine) (raw : String) (state : State) : Prop :=
  let step := engine.step raw state
  step.state = state ∧ step.trace.calls = [] ∨
    ∃ (before : Trace) (line : Script.Line) (command : Command) (reply : Reply) (rest : Trace),
      step.trace = before ++ .called line reply :: rest ∧ before.calls = [] ∧
      rest.Passive ∧ engine.commands.find? line.name = some command ∧
      ((command.run line.args state).1.Revoked → step.state.Revoked)

theorem step_callsLast {engine : Engine} (kind : engine.Hands Handle.Orderly) (raw : String)
    {state : State} (orderly : state.Holds Handle.Orderly) : engine.CallsLast raw state := by
  rcases engine.step_cases raw state with
    ⟨trace, sequel, quiet, _, stepped⟩ |
    ⟨trace, line, command, after, reply, quiet, found, replied, stepped⟩
  · left
    rw [stepped]
    exact ⟨rfl, quiet.calls⟩
  · right
    obtain ⟨note, _, made⟩ := Step.ofEffect_noted line.raw
      (Effect.after (trace ++ [.called line reply]) (handleReply line after reply))
    obtain ⟨held, own⟩ := kind.run found replied orderly
    have rest := (handleReply_passive line after reply).append
      (passive_ofEntries (note.toList.map .note))
    refine ⟨trace, line, command, reply, _, ?_, quiet.calls, rest, found, ?_⟩
    · rw [stepped, made]
      simp [Effect.after]
    · rw [stepped, made, replied]
      exact handleReply_revoked held own

/-- The next line in a canceled scope is not even looked at. -/
theorem step_canceled {engine : Engine} {state : State} (revoked : state.Revoked) (raw : String) :
    engine.step raw state =
      ⟨state, [], .fail (Text.strip (Text.stripLineEnd raw)) (.line .canceled)⟩ := by
  have canceled : state.isCanceled = true := state.isCanceled_iff.mpr revoked
  simp [step, canceled]

/-! ## Scripts -/

/-- The failure of a script at a line that is reached in a canceled scope, `count` lines having been
read before it. -/
def cancellation (name : String) (count : Nat) (raw : String) : Fault :=
  .execution name (count + 1) (Text.strip (Text.stripLineEnd raw)) (.line .canceled)

/-- A script goes no further than its first `count` lines: nothing is called or evaluated behind
them, and the next line, if there is one, ends the script. What is in the background is awaited
then: the failure of the line is that of the script if the handles end in output or in failures of
their commands, and what was recorded stays as it was if they leave it alone. -/
structure Halts (engine : Engine) (name : String) (source : Source) (count : Nat) (state : State) :
    Prop where
  passive : ∃ rest, (engine.execute name source state).trace =
    (engine.advance name (source.lines.take count) state).trace ++ rest ∧ rest.Passive
  located : ∀ raw, source.lines[count]? = some raw →
    let reached := engine.advance name (source.lines.take count) state
    engine.execute name source state =
      .after reached.trace (reached.state.abandon (cancellation name count raw))
  fails : ∀ raw, source.lines[count]? = some raw →
    (engine.advance name (source.lines.take count) state).state.Holds Handle.Telling →
    (engine.execute name source state).result = .error (cancellation name count raw)
  keeps : ∀ raw, source.lines[count]? = some raw →
    let reached := (engine.advance name (source.lines.take count) state).state
    reached.Holds Handle.Steady →
      reached.SameRecord (engine.execute name source state).state.toScene

section
variable {engine : Engine} {name : String} {source : Source} {count : Nat} {state : State}

/-- How lines end of which the next, if there is one, is reached in a canceled scope. -/
def canceledEnding (count : Nat) : Option String → Ending
  | none => .finished count
  | some raw => .failed (count + 1) (Text.strip (Text.stripLineEnd raw)) (.line .canceled)

theorem runLines_canceled (engine : Engine) (name : String) (count : Nat) (lines : List String)
    {state : State} (revoked : state.Revoked) :
    engine.runLines name count lines state = ⟨state, [], canceledEnding count lines.head?⟩ := by
  cases lines with
  | nil => rfl
  | cons raw rest =>
    simp only [runLines, step_canceled revoked]
    rfl

/-- Lines whose scope is canceled behind the first of them do what these do, and no more. -/
theorem advance_canceled
    (finished : (engine.advance name (source.lines.take count) state).ending = .finished count)
    (revoked : (engine.advance name (source.lines.take count) state).state.Revoked) :
    let reached := engine.advance name (source.lines.take count) state
    engine.advance name source.lines state =
      ⟨reached.state, reached.trace, canceledEnding count source.lines[count]?⟩ := by
  intro reached
  have row := engine.runLines_append_of_finished name 0 (source.lines.take count)
    (source.lines.drop count) _ finished
  have rest := runLines_canceled engine name count (source.lines.drop count) revoked
  rw [List.take_append_drop] at row
  calc engine.advance name source.lines state
      = .after reached.trace
          (engine.runLines name count (source.lines.drop count) reached.state) := row
    _ = ⟨reached.state, reached.trace, canceledEnding count source.lines[count]?⟩ := by
      rw [rest, List.head?_drop]
      simp [Progress.after, reached]

theorem halts_of_revoked
    (finished : (engine.advance name (source.lines.take count) state).ending = .finished count)
    (revoked : (engine.advance name (source.lines.take count) state).state.Revoked) :
    engine.Halts name source count state := by
  have lines := advance_canceled finished revoked
  have located (raw : String) (next : source.lines[count]? = some raw) :
      engine.execute name source state =
        .after (engine.advance name (source.lines.take count) state).trace
          ((engine.advance name (source.lines.take count) state).state.abandon
            (cancellation name count raw)) := by
    rw [execute, lines, next]
    rfl
  have rest := Ending.run_passive (canceledEnding count source.lines[count]?) name source.failure
    (engine.advance name (source.lines.take count) state).state
  refine ⟨⟨_, ?_, rest⟩, located, ?_, ?_⟩
  · rw [execute, lines]
    rfl
  · intro raw next telling
    rw [located raw next]
    exact (State.abandon_clears telling (cancellation name count raw)).2
  · intro raw next reached steady
    rw [located raw next]
    exact State.abandon_steady steady _

end

end Engine

/-! ## What comes later -/

/-- What can be done about a state: a script is executed on it, or something is done with scopes. -/
inductive Visit where
  | script (name : String) (source : Source)
  | scopes (change : ScopeChange)

namespace Engine

def visit (engine : Engine) (state : State) : Visit → State
  | .script name source => (engine.execute name source state).state
  | .scopes change => { state with scopes := state.scopes.change change }

def visited (engine : Engine) (state : State) (visits : List Visit) : State :=
  visits.foldl engine.visit state

/-- From now on every script ends at its first line. -/
def HaltsLater (engine : Engine) (state : State) : Prop :=
  ∀ visits name source, engine.Halts name source 0 (engine.visited state visits)

variable {engine : Engine} {state : State}

/-- Whatever its lines have left, the end of a script takes back no cancellation. -/
theorem execute_revoked (kind : engine.Hands Handle.Orderly) (orderly : state.Holds Handle.Orderly)
    {name : String} {source : Source}
    (revoked : (engine.advance name source.lines state).state.Revoked) :
    (engine.execute name source state).state.Revoked :=
  Ending.run_revoked ((engine.advance_moves name source.lines state).holds kind orderly) revoked _
    name source.failure

theorem advance_revoked (engine : Engine) (revoked : state.Revoked) (name : String)
    (lines : List String) : (engine.advance name lines state).state.Revoked := by
  have attached : (engine.attach state).Revoked := revoked
  rw [advance, runLines_canceled engine name 0 lines attached]
  exact attached

theorem visit_revoked (kind : engine.Hands Handle.Orderly) (orderly : state.Holds Handle.Orderly)
    (revoked : state.Revoked) (visit : Visit) :
    (engine.visit state visit).Holds Handle.Orderly ∧ (engine.visit state visit).Revoked := by
  cases visit with
  | script name source =>
    have lines := engine.advance_revoked revoked name source.lines
    exact ⟨(engine.execute_moves name source state).holds kind orderly,
      execute_revoked kind orderly lines⟩
  | scopes change => exact ⟨orderly, Scopes.Revoked.change revoked change⟩

theorem haltsLater_of_revoked (kind : engine.Hands Handle.Orderly)
    (orderly : state.Holds Handle.Orderly) (revoked : state.Revoked) : engine.HaltsLater state := by
  intro visits
  induction visits generalizing state with
  | nil =>
    intro name source
    exact halts_of_revoked rfl (engine.advance_revoked revoked name [])
  | cons visit rest ih =>
    obtain ⟨held, still⟩ := visit_revoked kind orderly revoked visit
    exact ih held still

/-- Nothing runs once the scope of a state is canceled, or one above it. If a command cancels it,
nothing is called or evaluated any more in its line, and nothing at the end of its script. If it is
canceled behind some lines of a script, the script ends at the next one; and if it is canceled when
a script begins, that script and all later ones end at their first lines, whatever is done about
scopes in between. -/
theorem execute_halts (kind : engine.Hands Handle.Orderly) (orderly : state.Holds Handle.Orderly) :
    (∀ raw, engine.CallsLast raw state) ∧
    (∀ name source,
      let reached := engine.advance name source.lines state
      let run := engine.execute name source state
      (∃ rest, run.trace = reached.trace ++ rest ∧ rest.Passive) ∧
        (reached.state.Revoked → engine.HaltsLater run.state)) ∧
    (∀ name source count,
      let reached := engine.advance name (source.lines.take count) state
      let run := engine.execute name source state
      reached.ending = .finished count → reached.state.Revoked →
        engine.Halts name source count state ∧ engine.HaltsLater run.state) ∧
    (state.Revoked → engine.HaltsLater state) := by
  have later {name : String} {source : Source}
      (revoked : (engine.advance name source.lines state).state.Revoked) :
      engine.HaltsLater (engine.execute name source state).state :=
    haltsLater_of_revoked kind ((engine.execute_moves name source state).holds kind orderly)
      (execute_revoked kind orderly revoked)
  refine ⟨fun raw => step_callsLast kind raw orderly, ?_, ?_, haltsLater_of_revoked kind orderly⟩
  · intro name source reached run
    exact ⟨⟨_, rfl, Ending.run_passive _ name source.failure _⟩, later⟩
  · intro name source count reached run finished revoked
    refine ⟨halts_of_revoked finished revoked, later ?_⟩
    rw [advance_canceled finished revoked]
    exact revoked

end Engine

/-! ## A command that cancels -/

/-- A command that cancels the first scope there is. -/
def revocation : Command where
  usage := ⟨"cancel all scopes", "", [], false⟩
  act := fun _ state => ({ state with scopes := state.scopes.cancel 0 }, .done)

/-- An engine that knows this command only. -/
def revoking : Engine := ⟨⟨[("cancel", revocation)]⟩, .empty⟩

theorem orderly_revoking : revoking.Hands Handle.Orderly := by
  intro name command found
  obtain ⟨rfl, rfl⟩ : name = _ ∧ command = _ := by simpa [revoking] using Table.mem_of_find? found
  exact ⟨fun _ _ orderly => orderly, by rintro args state _ ⟨⟩⟩

/-- Its line goes on to the next one, and leaves the scope of the script canceled. -/
theorem Engine.step_revocation {engine : Engine} {state : State}
    (knows : engine.commands.find? "cancel" = some revocation)
    (alive : state.isCanceled = false) :
    ∃ trace, engine.step "cancel\n" state =
      ⟨{ state with scopes := state.scopes.cancel 0 }, trace, .next⟩ := by
  let line : Script.Line := ⟨"cancel", "cancel", [], [], .success, false⟩
  have words : Script.rawWords "cancel" = .ok [[.plain "cancel".toList]] := rfl
  have shape : "cancel".toList = 'c' :: ("ance".toList ++ ['l']) := rfl
  have read : Script.Line.parse "cancel" state.env.expand = .ok (some line) :=
    Script.Line.parse_plain shape (by decide) (by decide) (by decide) words (by simp) rfl state.env
  have called := @step_called engine line state _ revocation .done alive read rfl knows nofun rfl
  have raw : "cancel\n" = line.raw ++ "\n" := rfl
  refine ⟨[.logged (.echo line.raw), .called line .done], ?_⟩
  rw [raw, called]
  rfl

private theorem advance_revoking (state : State) (alive : state.isCanceled = false) :
    (revoking.advance "s" ["cancel\n"] state).ending = .finished 1 ∧
      (revoking.advance "s" ["cancel\n"] state).state =
        { revoking.attach state with scopes := state.scopes.cancel 0 } := by
  obtain ⟨trace, stepped⟩ := @Engine.step_revocation revoking (revoking.attach state) rfl alive
  rw [Engine.advance, Engine.runLines, stepped]
  exact ⟨rfl, rfl⟩

/-- A command cancels the scope above that of its script: the comment behind it ends the script. -/
theorem Engine.execute_halts_revoking :
    let state := State.start .empty "/" .empty
    let source := Source.ofLines ["cancel\n", "# late\n"]
    let run := revoking.execute "s" source state
    revoking.Hands Handle.Orderly ∧ state.Holds Handle.Orderly ∧
      run.result = .error (.execution "s" 2 "# late" (.line .canceled)) ∧
      state.SameRecord run.state.toScene ∧ revoking.HaltsLater run.state := by
  intro state source run
  have orderly : state.Holds Handle.Orderly := by
    simp [State.Holds, State.outstanding, state, State.start]
  have first : source.lines.take 1 = ["cancel\n"] := rfl
  have next : source.lines[1]? = some "# late\n" := rfl
  obtain ⟨finished, left⟩ := advance_revoking state rfl
  rw [← first] at finished left
  have revoked : (revoking.advance "s" (source.lines.take 1) state).state.Revoked := by
    rw [left]
    exact (Scene.isCanceled_iff _).mp rfl
  have nothing (kind : Handle → Prop) :
      (revoking.advance "s" (source.lines.take 1) state).state.Holds kind := by
    rw [left]
    simp [State.Holds, State.outstanding, attach, state, State.start]
  obtain ⟨_, _, halts, _⟩ := revoking.execute_halts orderly_revoking orderly
  obtain ⟨halted, later⟩ := halts "s" source 1 finished revoked
  have failed := halted.fails _ next (nothing _)
  have same := halted.keeps _ next (nothing _)
  rw [left] at same
  exact ⟨orderly_revoking, orderly, failed, ⟨same.pwd, same.env, same.written, same.last⟩, later⟩

/-- What is left in the background can replace the failure of the line by a fault of its own, and
change the directory while it is awaited. -/
theorem Engine.execute_halts_not_alone :
    let engine : Engine := ⟨.empty, .empty⟩
    let begun := State.start .empty "/" .empty
    let state : State := { begun with scopes := begun.scopes.cancel 0 }
    let raising : Handle := .task fun scene => (scene, .error (.value .embeddedNul))
    let moving : Handle := .task fun scene => (scene.enter "/tmp", .ok .empty)
    let run (handle : Handle) :=
      engine.execute "s" (.ofLines ["# late\n"]) (state.withPending ⟨"a &", handle, .success⟩)
    state.Revoked ∧ (run raising).result = .error (.value .embeddedNul) ∧ state.pwd = "/" ∧
      (run moving).state.pwd = "/tmp" := by
  intro engine begun state raising moving run
  exact ⟨(Scene.isCanceled_iff _).mp rfl, rfl, rfl, rfl⟩

end LineScript
