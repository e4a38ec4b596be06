import LineScript.Proofs.Escapes

/-!
# What becomes of handles and of output
Modest commands leave it to the engine to await their handles and to record their output. Unless one
of them raises a fault that the engine does not expect (`Trace.Tame`), every handle is awaited
exactly once, in the order in which the handles came, however the script ends; and a script that
ends well has written down what its commands put out, each once, in the order in which it came in
(`execute_accounted`). Lines carry the invariant `Kept`: what is in the background is what was sent
there and has not been collected.
-/
namespace LineScript

/-! ## Output -/

/-- The output that a fault carries. -/
def Fault.output : Fault → Output
  | .command _ output => output
  | _ => .empty

/-- The output of what was awaited. -/
def outputOf : Except Fault Output → Output
  | .ok output => output
  | .error fault => fault.output

/-- The output that comes in with an event. A wait has none of its own: it collects. -/
def Event.output : Event → Output
  | .called _ (.fault fault) => fault.output
  | .awaited (.task _) result => outputOf result
  | .collected _ result => outputOf result
  | _ => .empty

namespace Trace

/-- All output that comes in, in order. -/
def output : Trace → Output
  | [] => .empty
  | event :: rest => event.output.append (output rest)

theorem output_append (first second : Trace) :
    (first ++ second).output = first.output.append second.output := by
  induction first with
  | nil => exact (Output.empty_append _).symm
  | cons event rest ih =>
    rw [List.cons_append, output, output, ih, Output.append_assoc]

@[simp] theorem handed_append (first second : Trace) :
    (first ++ second).handed = first.handed ++ second.handed := List.filterMap_append

@[simp] theorem awaited_append (first second : Trace) :
    (first ++ second).awaited = first.awaited ++ second.awaited := List.filterMap_append

@[simp] theorem sent_append (first second : Trace) :
    (first ++ second).sent = first.sent ++ second.sent := List.filterMap_append

@[simp] theorem collected_append (first second : Trace) :
    (first ++ second).collected = first.collected ++ second.collected := List.filterMap_append

theorem Quiet.views {trace : Trace} (quiet : Quiet trace) :
    trace.handed = [] ∧ trace.awaited = [] ∧ trace.sent = [] ∧ trace.collected = [] ∧
      trace.output = .empty := by
  induction trace with
  | nil => exact ⟨rfl, rfl, rfl, rfl, rfl⟩
  | cons event rest ih =>
    obtain ⟨handed, awaited, sent, collected, nothing⟩ :=
      ih fun other member => quiet other (List.mem_cons_of_mem _ member)
    have now := quiet event (by simp)
    have silent : Output.empty.append (output rest) = .empty :=
      (Output.empty_append _).trans nothing
    cases event with
    | logged entry => exact ⟨handed, awaited, sent, collected, silent⟩
    | tested guard => exact ⟨handed, awaited, sent, collected, silent⟩
    | called line reply => cases now
    | awaited handle result => cases now
    | collected handle result => cases now

end Trace

/-! ## What is expected of commands -/

/-- A handle that writes nothing down itself. A wait does not where those do not that it
collects. -/
def Handle.Modest : Handle → Prop
  | .task run => ∀ scene, (run scene).1.written = scene.written
  | .join => True

/-- A command that leaves the background and what was written alone, and whose handles write nothing
down. -/
structure Command.Modest (command : Command) : Prop where
  background : ∀ args state, (command.run args state).1.background = state.background
  written : ∀ args state, (command.run args state).1.written = state.written
  handles : ∀ args state handle, (command.run args state).2 = .handle handle → handle.Modest

def Engine.Modest (engine : Engine) : Prop :=
  ∀ name command, engine.commands.find? name = some command → command.Modest

/-- The awaited handle ended in output or in a failure of its command. -/
def Told (result : Except Fault Output) : Prop :=
  ∀ fault, result = .error fault → ∃ failure output, fault = .command failure output

/-- A command raised no fault but one that is caught, and a handle ended in output or in a failure
of its command. -/
def Event.Tame : Event → Prop
  | .called _ (.fault fault) => fault.isCaught = true
  | .awaited (.task _) result => Told result
  | .collected _ result => Told result
  | _ => True

def Trace.Tame (trace : Trace) : Prop := ∀ event ∈ trace, event.Tame

theorem Trace.tame_append {first second : Trace} :
    (first ++ second).Tame ↔ first.Tame ∧ second.Tame := List.forall_mem_append

theorem Trace.tame_cons {event : Event} {trace : Trace} :
    Trace.Tame (event :: trace) ↔ event.Tame ∧ trace.Tame := List.forall_mem_cons

/-- The handles of what is in the background, oldest first. -/
def State.outstanding (state : State) : List Handle := state.background.map (·.handle)

/-- How a trace accounts for the way from one state to another: what the foreground was handed has
been awaited; the background has been collected from its oldest handle on, and what was sent came
behind; and all output that came in has been written down. -/
structure Kept (state : State) (trace : Trace) (after : State) : Prop where
  awaited : trace.awaited = trace.handed
  collected : state.outstanding ++ trace.sent = trace.collected ++ after.outstanding
  modest : (∀ handle ∈ state.outstanding, handle.Modest) →
    ∀ handle ∈ after.outstanding, handle.Modest
  written : after.written = state.written.append trace.output

namespace Kept

theorem refl (state : State) {trace : Trace} (quiet : trace.Quiet) : Kept state trace state := by
  obtain ⟨handed, awaited, sent, collected, output⟩ := quiet.views
  refine ⟨by rw [handed, awaited], by rw [sent, collected]; simp, id, ?_⟩
  rw [output, Output.append_empty]

theorem trans {state between after : State} {first second : Trace}
    (early : Kept state first between) (late : Kept between second after) :
    Kept state (first ++ second) after where
  awaited := by simp [early.awaited, late.awaited]
  collected := by
    calc state.outstanding ++ (first ++ second).sent
        = first.collected ++ (between.outstanding ++ second.sent) := by
          rw [Trace.sent_append, ← List.append_assoc, early.collected, List.append_assoc]
      _ = (first ++ second).collected ++ after.outstanding := by
          rw [late.collected, Trace.collected_append, List.append_assoc]
  modest := late.modest ∘ early.modest
  written := by rw [late.written, early.written, Trace.output_append, Output.append_assoc]

end Kept

/-! ## Waiting for handles -/

theorem Handle.Modest.await {handle : Handle} (modest : handle.Modest) (scene : Scene) :
    (handle.await scene).1.written = scene.written := by
  cases handle with
  | task run => exact modest scene
  | join => rfl

theorem Told.outcome {result : Except Fault Output} (told : Told result) :
    ∃ outcome, Outcome.ofResult result = .ok outcome ∧ outcome.output = outputOf result := by
  cases result with
  | ok output => exact ⟨⟨output, none⟩, rfl, rfl⟩
  | error fault =>
    obtain ⟨failure, output, rfl⟩ := told fault rfl
    exact ⟨⟨output, some failure⟩, rfl, rfl⟩

/-- Everything in the background is collected, and its output is joined. -/
theorem awaitAll_modest (pending : List Pending) (scene : Scene)
    (modest : ∀ one ∈ pending, one.handle.Modest) (tame : (awaitAll pending scene).2.1.Tame) :
    let all := awaitAll pending scene
    all.1.written = scene.written ∧ all.2.1.handed = [] ∧ all.2.1.awaited = [] ∧
      all.2.1.sent = [] ∧ all.2.1.collected = pending.map (·.handle) ∧
      ∃ failures, all.2.2 = .ok (all.2.1.output, failures) := by
  induction pending generalizing scene with
  | nil => exact ⟨rfl, rfl, rfl, rfl, rfl, [], rfl⟩
  | cons first rest ih =>
    have kept := (modest first (by simp)).await scene
    have told : Told (first.handle.await scene).2 := by
      cases known : Outcome.ofResult (first.handle.await scene).2 with
      | error fault =>
        rw [awaitAll_of_error known] at tame
        exact (Trace.tame_cons.mp tame).1
      | ok outcome =>
        rw [awaitAll_of_ok known] at tame
        exact (Trace.tame_cons.mp tame).1
    obtain ⟨outcome, known, output⟩ := told.outcome
    rw [awaitAll_of_ok known] at tame ⊢
    have later := ih (first.handle.await scene).1
      (fun one member => modest one (List.mem_cons_of_mem _ member)) (Trace.tame_cons.mp tame).2
    generalize awaitAll rest (first.handle.await scene).1 = waited at later ⊢
    obtain ⟨after, trace, result⟩ := waited
    simp only at later
    obtain ⟨written, handed, awaited, sent, collected, failures, rfl⟩ := later
    refine ⟨written.trans kept, handed, awaited, sent, ?_, first.failures outcome ++ failures, ?_⟩
    · exact congrArg (first.handle :: ·) collected
    · simp only [Except.map, output]
      rfl

/-- A wait leaves nothing in the background; what it comes to is to be recorded. -/
theorem State.join_kept (state : State) (modest : ∀ handle ∈ state.outstanding, handle.Modest)
    (tame : state.join.2.1.Tame) :
    let joined := state.join
    Kept state joined.2.1 (joined.1.record (outputOf joined.2.2)) ∧ joined.1.background = [] ∧
      Told joined.2.2 := by
  have waited := awaitAll_modest state.background state.toScene
    (fun one member => modest _ (List.mem_map_of_mem member)) tame
  unfold join
  generalize awaitAll state.background state.toScene = all at waited ⊢
  obtain ⟨after, trace, result⟩ := all
  simp only at waited
  obtain ⟨written, handed, awaited, sent, collected, failures, rfl⟩ := waited
  have kept : Kept state trace
      (State.record { state with toScene := after, background := [] } trace.output) := by
    refine ⟨by rw [handed, awaited], ?_, by simp [outstanding, record], ?_⟩
    · rw [sent, collected]
      simp [outstanding, record]
    · simp [record, Scene.record, written]
  cases failures with
  | nil => exact ⟨kept, rfl, by rintro _ ⟨⟩⟩
  | cons failure failures =>
    refine ⟨kept, rfl, ?_⟩
    rintro _ ⟨⟩
    exact ⟨_, _, rfl⟩

/-- A handle that is awaited in the foreground is awaited once. -/
theorem State.await_kept (state : State) (line : Script.Line) (foreground : line.background = false)
    (handle : Handle) (own : handle.Modest)
    (modest : ∀ handle ∈ state.outstanding, handle.Modest)
    (tame : (state.await handle).2.1.Tame) :
    let awaited := state.await handle
    Kept state (.called line (.handle handle) :: awaited.2.1)
        (awaited.1.record (outputOf awaited.2.2)) ∧ Told awaited.2.2 := by
  cases handle with
  | task run =>
    have written := own state.toScene
    have told : Told (run state.toScene).2 := (Trace.tame_cons.mp tame).1
    refine ⟨⟨?_, ?_, id, ?_⟩, told⟩
    · simp [Trace.awaited, Trace.handed, await, foreground]
    · simp [Trace.sent, Trace.collected, await, foreground, outstanding, record]
    · simp [await, record, Scene.record, written, Trace.output, Event.output, Output.empty_append,
        Output.append_empty]
  | join =>
    obtain ⟨kept, _, told⟩ := state.join_kept modest (Trace.tame_cons.mp tame).2
    have begins :
        Kept state [.called line (.handle .join), .awaited .join state.join.2.2] state := by
      refine ⟨?_, ?_, id, ?_⟩
      · simp [Trace.awaited, Trace.handed, foreground]
      · simp [Trace.sent, Trace.collected, foreground]
      · simp [Trace.output, Event.output, Output.append_empty]
    exact ⟨begins.trans kept, told⟩

/-! ## Ends of lines -/

namespace Engine
open Trace

/-- A line ends well, or in a fault of scripts, or in a stop. -/
def Settled (ended : Except Fault Unit) : Prop :=
  ∀ fault, ended = .error fault → fault.isScript = true ∨ ∃ message, fault = .stop message

private theorem settled_of_script {ended : Except Fault Unit}
    (script : ∀ fault, ended = .error fault → fault.isScript = true) : Settled ended :=
  fun fault failed => .inl (script fault failed)

private theorem faulted_kept (line : Script.Line) {state after : State} {fault : Fault}
    {trace : Trace} (quiet : Quiet trace) (background : after.background = state.background)
    (written : after.written = state.written.append fault.output) :
    Kept state (.called line (.fault fault) :: trace) after := by
  have same : after.outstanding = state.outstanding := by simp [State.outstanding, background]
  obtain ⟨handed, awaited, sent, collected, output⟩ := quiet.views
  have nothingSent : Trace.sent (.called line (.fault fault) :: trace) = [] := sent
  have nothingCollected : Trace.collected (.called line (.fault fault) :: trace) = [] := collected
  refine ⟨awaited.trans handed.symm, ?_, by rw [same]; exact id, ?_⟩
  · rw [same, nothingSent, nothingCollected, List.append_nil, List.nil_append]
  · rw [written, Trace.output, output, Output.append_empty]
    rfl

/-- A fault that a command raised at once is recorded with its output, if it carries any. -/
private theorem concludeFault_kept (line : Script.Line) (state : State) {fault : Fault}
    (caught : fault.isCaught = true) :
    ∃ after trace ended, Settled ended ∧ Kept state (.called line (.fault fault) :: trace) after ∧
      concludeFault line.want state fault = (after, trace, ended) := by
  cases told : Outcome.ofFault? fault.asFailure with
  | some outcome =>
    obtain ⟨trace, ended, quiet, script, _, concluded⟩ := conclude_spec line.want state outcome
    have output : outcome.output = fault.output := by
      cases fault <;> cases told <;> rfl
    refine ⟨state.record outcome.output, trace, ended, settled_of_script script,
      faulted_kept line quiet rfl ?_, ?_⟩
    · exact congrArg state.written.append output
    · simp only [concludeFault, told, concluded]
  | none =>
    have silent : fault.output = .empty := by
      cases fault with
      | command failure output => cases told
      | _ => rfl
    have settled : Settled (.error fault) := by
      rintro _ ⟨⟩
      cases fault with
      | system refusal => cases told
      | stop message => exact .inr ⟨message, rfl⟩
      | _ => exact .inl caught
    refine ⟨state, [], _, settled, faulted_kept line quiet_nil rfl ?_, ?_⟩
    · rw [silent, Output.append_empty]
    · simp only [concludeFault, told]

/-- Whatever a modest command replies, the engine accounts for it. -/
theorem handleReply_kept (line : Script.Line) (state : State) {reply : Reply}
    (handles : ∀ handle, reply = .handle handle → handle.Modest)
    (modest : ∀ handle ∈ state.outstanding, handle.Modest)
    (tame : Trace.Tame (.called line reply :: (handleReply line state reply).2.1)) :
    ∃ after trace ended, Settled ended ∧ Kept state (.called line reply :: trace) after ∧
      handleReply line state reply = (after, trace, ended) := by
  cases reply with
  | done =>
    refine ⟨state, [], _, ?_, ⟨rfl, ?_, id, ?_⟩, rfl⟩
    · intro fault failed
      left
      cases expected : line.want.failure? none with
      | none =>
        rw [expected] at failed
        cases failed
      | some failure =>
        rw [expected] at failed
        cases failed
        rfl
    · exact List.append_nil _
    · simp [Trace.output, Event.output, Output.append_empty]
  | fault fault => exact concludeFault_kept line state (tame_cons.mp tame).1
  | handle handle =>
    cases foreground : line.background with
    | true =>
      refine ⟨_, [], .ok (), by rintro _ ⟨⟩, ⟨?_, ?_, ?_, ?_⟩,
        by rw [handleReply, if_pos foreground]⟩
      · simp [Trace.awaited, Trace.handed, foreground]
      · simp [Trace.sent, Trace.collected, foreground, State.outstanding]
      · intro before one member
        rw [State.outstanding, List.map_append] at member
        rcases List.mem_append.mp member with early | late
        · exact before one early
        · rw [List.mem_singleton.mp late]
          exact handles handle rfl
      · simp [Trace.output, Event.output, Output.append_empty]
    | false =>
      have waited : (state.await handle).2.1.Tame := by
        have later := (tame_cons.mp tame).2
        rw [handleReply, if_neg (by simp [foreground])] at later
        exact (tame_append.mp later).1
      obtain ⟨kept, told⟩ :=
        state.await_kept line foreground handle (handles handle rfl) modest waited
      obtain ⟨outcome, known, output⟩ := told.outcome
      obtain ⟨trace, ended, quiet, script, _, concluded⟩ :=
        concludeResult_spec line.want (state.await handle).1 known
      rw [← output] at kept
      refine ⟨_, (state.await handle).2.1 ++ trace, ended, settled_of_script script,
        kept.trans (.refl _ quiet), ?_⟩
      rw [handleReply, if_neg (by simp [foreground])]
      simp only [concluded, Effect.after]

section
variable {engine : Engine} (decent : engine.Modest)
include decent

/-- A tame step of modest commands is accounted for, and nothing escapes. -/
theorem step_kept (raw : String) (state : State)
    (modest : ∀ handle ∈ state.outstanding, handle.Modest)
    (tame : (engine.step raw state).trace.Tame) :
    Kept state (engine.step raw state).trace (engine.step raw state).state ∧
      ∀ fault, (engine.step raw state).sequel ≠ .escape fault := by
  rcases engine.step_cases raw state with
    ⟨trace, sequel, quiet, kept, stepped⟩ |
    ⟨trace, line, command, after, reply, quiet, found, replied, stepped⟩
  · rw [stepped]
    exact ⟨.refl state quiet, kept⟩
  · have own := decent line.name command found
    have background := own.background line.args state
    have written := own.written line.args state
    have handles := own.handles line.args state
    rw [replied] at background written handles
    have same : after.outstanding = state.outstanding := congrArg (List.map _) background
    obtain ⟨last, sequel, silent, escaping, made⟩ := Step.ofEffect_spec line.raw
      (Effect.after (trace ++ [.called line reply]) (handleReply line after reply))
    have called : Trace.Tame (.called line reply :: (handleReply line after reply).2.1) := by
      rw [stepped, made] at tame
      simp only [Effect.after, List.append_assoc, List.singleton_append, tame_append] at tame
      exact tame.2.1
    obtain ⟨final, happened, ended, settled, kept, handled⟩ :=
      handleReply_kept line after handles (by rwa [same]) called
    have begun : Kept state trace after := by
      obtain ⟨handed, awaited, sent, collected, output⟩ := quiet.views
      refine ⟨awaited.trans handed.symm, ?_, by rw [same]; exact id, ?_⟩
      · rw [sent, collected, same, List.append_nil, List.nil_append]
      · rw [output, Output.append_empty]
        exact written
    rw [stepped, made, handled]
    constructor
    · have all := (begun.trans kept).trans (.refl final silent)
      simpa [Effect.after] using all
    · intro fault escaped
      obtain ⟨failed, foreign, unstopped⟩ := escaping fault escaped
      rw [handled] at failed
      rcases settled fault failed with script | ⟨message, stop⟩
      · simp [script] at foreign
      · exact unstopped message stop

theorem runLines_kept (name : String) (count : Nat) (lines : List String) (state : State)
    (modest : ∀ handle ∈ state.outstanding, handle.Modest)
    (tame : (engine.runLines name count lines state).trace.Tame) :
    let progress := engine.runLines name count lines state
    Kept state progress.trace progress.state ∧ ∀ fault, progress.ending ≠ .escaped fault := by
  induction lines generalizing count state with
  | nil => exact ⟨.refl state quiet_nil, by simp [runLines]⟩
  | cons raw rest ih =>
    rw [runLines] at tame ⊢
    have first : (engine.step raw state).trace.Tame := by
      split at tame
      · exact (tame_append.mp tame).1
      all_goals exact tame
    obtain ⟨kept, caught⟩ := step_kept decent raw state modest first
    cases sequel : (engine.step raw state).sequel with
    | next =>
      simp only [sequel] at tame
      obtain ⟨later, ends⟩ := ih (count + 1) _ (kept.modest modest) (tame_append.mp tame).2
      exact ⟨kept.trans later, ends⟩
    | stop =>
      exact ⟨⟨kept.awaited, kept.collected, kept.modest, kept.written⟩, by simp⟩
    | fail text cause => exact ⟨kept, by simp⟩
    | escape fault => exact absurd sequel (caught fault)

end

end Engine

/-! ## Ends of scripts -/

namespace State
open Trace

/-- What is left when lines have come to their end is collected and written down. -/
theorem finish_kept (state : State) (name : String) (lineno : Nat)
    (modest : ∀ handle ∈ state.outstanding, handle.Modest)
    (tame : (state.finish name lineno).trace.Tame) :
    let run := state.finish name lineno
    Kept state run.trace run.state ∧ run.state.background = [] ∧ (run.result = .ok () ∨
      ∃ cause, run.result = .error (.execution name lineno "wait" cause)) := by
  have ends := state.finishes name lineno
  generalize state.finish name lineno = run at ends tame ⊢
  cases ends with
  | idle nothing => exact ⟨.refl state quiet_nil, nothing, .inl rfl⟩
  | ended joined =>
    obtain ⟨kept, emptied, _⟩ := state.join_kept modest (tame_append.mp tame).1
    rw [joined] at kept
    exact ⟨kept.trans (.refl _ (quiet_ofEntries _)), emptied, .inl rfl⟩
  | failed joined =>
    obtain ⟨kept, emptied, _⟩ := state.join_kept modest (tame_append.mp tame).1
    rw [joined] at kept
    exact ⟨kept.trans (.refl _ (quiet_ofEntries _)), emptied, .inr ⟨_, rfl⟩⟩
  | broken joined foreign =>
    obtain ⟨failure, output, rfl⟩ := (state.join_kept modest tame).2.2 _ joined
    cases foreign

/-- What is left when a script has failed is collected, too, and the fault stays what it is. -/
theorem abandon_kept (state : State) (fault : Fault)
    (modest : ∀ handle ∈ state.outstanding, handle.Modest)
    (tame : (state.abandon fault).trace.Tame) :
    let run := state.abandon fault
    run.trace.awaited = run.trace.handed ∧
      state.outstanding ++ run.trace.sent = run.trace.collected ∧ run.state.background = [] ∧
      run.result = .error fault := by
  have ends := state.abandons fault
  have collected {happened : Trace} {final : State} (all : Kept state happened final)
      (nothing : final.background = []) :
      state.outstanding ++ happened.sent = happened.collected := by
    simpa [outstanding, nothing] using all.collected
  generalize state.abandon fault = run at ends tame ⊢
  cases ends with
  | idle nothing =>
    exact ⟨rfl, by simp [outstanding, nothing, Trace.sent, Trace.collected], nothing, rfl⟩
  | ended =>
    obtain ⟨kept, emptied, _⟩ := state.join_kept modest tame
    exact ⟨kept.awaited, collected kept emptied, emptied, rfl⟩
  | @failed failure output joined =>
    obtain ⟨kept, emptied, _⟩ := state.join_kept modest (tame_append.mp tame).1
    have noted := kept.trans (.refl _ (quiet_ofEntries [.note ("background: " ++ failure.message)]))
    exact ⟨noted.awaited, collected noted emptied, emptied, rfl⟩
  | broken joined foreign =>
    obtain ⟨failure, output, rfl⟩ := (state.join_kept modest tame).2.2 _ joined
    cases foreign

end State

/-- A script that was executed and whose lines ended as given has lost nothing: what the foreground
and the background were handed has been awaited, each handle once and in order, and nothing is left;
a line that failed is what the script failed with; and a script that ended well has written down
all output that came in, each once and in order. -/
structure Run.Accounted (run : Run) (name : String) (start : State) (ending : Ending) : Prop where
  ended : run.Ended name
  awaited : run.trace.awaited = run.trace.handed
  collected : run.trace.collected = run.trace.sent
  emptied : run.state.background = []
  failed : ∀ lineno text cause, ending = .failed lineno text cause →
    run.result = .error (.execution name lineno text cause)
  written : run.result = .ok () → run.state.written = start.written.append run.trace.output

section
variable {start state : State} {trace : Trace} (kept : Kept start trace state)
  (idle : start.background = [])
include kept idle

private theorem modest_outstanding : ∀ handle ∈ state.outstanding, handle.Modest :=
  kept.modest (by simp [State.outstanding, idle])

private theorem collected_eq_sent (emptied : state.background = []) :
    trace.collected = trace.sent := by
  simpa [State.outstanding, idle, emptied] using kept.collected.symm

private theorem finish_accounted (name : String) (lineno : Nat) {ending : Ending}
    (unfailed : ∀ lineno text cause, ending ≠ .failed lineno text cause)
    (tame : (state.finish name lineno).trace.Tame) :
    (Run.after trace (state.finish name lineno)).Accounted name start ending := by
  obtain ⟨late, emptied, ended⟩ :=
    state.finish_kept name lineno (modest_outstanding kept idle) tame
  have whole := kept.trans late
  refine ⟨?_, whole.awaited, collected_eq_sent whole idle emptied, emptied, ?_,
    fun _ => whole.written⟩
  · exact ended.imp_right fun ⟨cause, failed⟩ => ⟨lineno, "wait", cause, failed⟩
  · intro lineno text cause failed
    exact absurd failed (unfailed lineno text cause)

private theorem abandon_accounted (name : String) (lineno : Nat) (text : String) (cause : Fault)
    (tame : (state.abandon (.execution name lineno text cause)).trace.Tame) :
    (Run.after trace (state.abandon (.execution name lineno text cause))).Accounted name start
      (.failed lineno text cause) := by
  obtain ⟨awaited, collected, emptied, result⟩ :=
    state.abandon_kept (.execution name lineno text cause) (modest_outstanding kept idle) tame
  refine ⟨.inr ⟨lineno, text, cause, result⟩, ?_, ?_, emptied, ?_, ?_⟩
  · simp [Run.after, kept.awaited, awaited]
  · have early := kept.collected
    simp only [State.outstanding, idle, List.map_nil, List.nil_append] at early
    simp only [Run.after, Trace.collected_append, Trace.sent_append, early, ← collected,
      State.outstanding, List.append_assoc]
  · rintro _ _ _ ⟨⟩
    exact result
  · intro well
    rw [Run.after, result] at well
    cases well

end

/-- As long as nothing unexpected is raised, every handle that a modest command replies with is
awaited exactly once before the script ends, whether it ends well or in a fault that names one of
its lines, and no output of a script that ends well is lost or written down twice. -/
theorem Engine.execute_accounted {engine : Engine} (modest : engine.Modest) (name : String)
    {source : Source} (readable : source.failure = none) {state : State}
    (idle : state.background = []) (tame : (engine.execute name source state).trace.Tame) :
    (engine.execute name source state).Accounted name state
      (engine.advance name source.lines state).ending := by
  rw [execute, readable] at tame ⊢
  obtain ⟨early, late⟩ := Trace.tame_append.mp tame
  obtain ⟨lines, caught⟩ := runLines_kept modest name 0 source.lines (engine.attach state)
    (by simp [State.outstanding, attach, idle]) early
  have kept : Kept state (engine.advance name source.lines state).trace
      (engine.advance name source.lines state).state :=
    ⟨lines.awaited, lines.collected, lines.modest, lines.written⟩
  cases ended : (engine.advance name source.lines state).ending with
  | finished lineno =>
    rw [ended] at late
    exact finish_accounted kept idle name lineno (by simp) late
  | stopped lineno =>
    rw [ended] at late
    exact finish_accounted kept idle name lineno (by simp) late
  | failed lineno text cause =>
    rw [ended] at late
    exact abandon_accounted kept idle name lineno text cause late
  | escaped fault => exact absurd ended (caught fault)

end LineScript
