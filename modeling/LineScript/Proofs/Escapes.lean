import LineScript.Proofs.Steps
import LineScript.Proofs.Waiting

/-!
# What leaves a script
Faults of scripts, stops and refusals by the system are caught where they are met. Any other fault
that a command or an awaited handle raises leaves the script at once, and no fault of that kind
leaves it unless it was raised, or met in reading (`execute_escapes`).
-/
namespace LineScript

/-! ## Faults that are raised -/

/-- The fault is one of scripts, a stop, or a refusal by the system: whoever runs the script knows
what to make of it. -/
def Fault.isCaught : Fault → Bool
  | .stop _ => true
  | .system _ => true
  | fault => fault.isScript

/-- What an event raises: a command raises a fault when it is called, a handle when it is awaited.
A wait raises nothing of its own. -/
def Event.raised? : Event → Option Fault
  | .called _ (.fault fault) => some fault
  | .awaited (.task _) (.error fault) => some fault
  | .collected _ (.error fault) => some fault
  | _ => none

namespace Trace

/-- The fault was raised meanwhile. -/
def Raises (trace : Trace) (fault : Fault) : Prop := ∃ event ∈ trace, event.raised? = some fault

variable {fault : Fault}

theorem raises_append {first second : Trace} :
    (first ++ second).Raises fault ↔ first.Raises fault ∨ second.Raises fault := by
  simp [Raises, or_and_right, exists_or]

theorem raises_cons {event : Event} {trace : Trace} :
    Raises (event :: trace) fault ↔ event.raised? = some fault ∨ trace.Raises fault := by
  simp [Raises]

theorem not_raises_nil : ¬Raises [] fault := by simp [Raises]

theorem not_raises_logged (entry : Entry) : ¬Raises [.logged entry] fault := by
  simp [Raises, Event.raised?]

theorem Quiet.not_raises {trace : Trace} (quiet : trace.Quiet) : ¬trace.Raises fault := by
  rintro ⟨event, member, raised⟩
  have still := quiet event member
  cases event with
  | logged | tested => cases raised
  | called | awaited | collected => cases still

end Trace

namespace Fault

variable {fault : Fault} (uncaught : fault.isCaught = false)
include uncaught

theorem ne_of_uncaught {other : Fault} (caught : other.isCaught = true) : other ≠ fault := by
  rintro rfl
  rw [caught] at uncaught
  cases uncaught

theorem asFailure_of_uncaught : fault.asFailure = fault := by
  cases fault <;> first | rfl | cases uncaught

theorem ofFault?_of_uncaught : Outcome.ofFault? fault = none := by
  cases fault <;> first | rfl | cases uncaught

theorem isScript_of_uncaught : fault.isScript = false := by
  cases fault <;> first | rfl | cases uncaught

end Fault

/-! ## Waiting -/

/-- A wait in the background breaks off just with an uncaught fault that is raised meanwhile. -/
theorem raises_awaitAll (pending : List Pending) (scene : Scene) {fault : Fault}
    (uncaught : fault.isCaught = false) : (awaitAll pending scene).2.1.Raises fault ↔
      (awaitAll pending scene).2.2 = .error fault := by
  induction pending generalizing scene with
  | nil => simp [awaitAll, Trace.Raises]
  | cons first rest ih =>
    cases known : Outcome.ofResult (first.handle.await scene).2 with
    | error other =>
      obtain ⟨ended, _⟩ := Outcome.ofResult_error known
      rw [awaitAll_of_error known, ended]
      simp [Trace.Raises, Event.raised?]
    | ok outcome =>
      have silent : (Event.collected first.handle (first.handle.await scene).2).raised? ≠
          some fault := by
        intro raised
        cases ended : (first.handle.await scene).2 with
        | ok output => simp [ended, Event.raised?] at raised
        | error other =>
          obtain rfl : other = fault := by simpa [ended, Event.raised?] using raised
          simp [ended, Outcome.ofResult, Fault.ofFault?_of_uncaught uncaught] at known
      rw [awaitAll_of_ok known, Trace.raises_cons, or_iff_right silent, ih]
      show (awaitAll rest (first.handle.await scene).1).2.2 = .error fault ↔
        (awaitAll rest (first.handle.await scene).1).2.2.map _ = .error fault
      cases (awaitAll rest (first.handle.await scene).1).2.2 <;> simp [Except.map]

namespace State
open Trace

variable {fault : Fault} (uncaught : fault.isCaught = false)
include uncaught

theorem raises_join (state : State) :
    state.join.2.1.Raises fault ↔ state.join.2.2 = .error fault := by
  have awaited := raises_awaitAll state.background state.toScene uncaught
  simp only [join]
  rw [awaited]
  rcases (awaitAll state.background state.toScene).2.2 with other | ⟨output, _ | ⟨failure, more⟩⟩
  · simp
  · simp
  · have other : .command (.background (failure :: more)) output ≠ fault :=
      Fault.ne_of_uncaught uncaught rfl
    simp [other]

theorem raises_await (state : State) (handle : Handle) :
    (state.await handle).2.1.Raises fault ↔ (state.await handle).2.2 = .error fault := by
  cases handle with
  | task run =>
    rcases ran : run state.toScene with ⟨scene, other | output⟩ <;>
      simp [await, ran, Raises, Event.raised?]
  | join =>
    have joined := raises_join uncaught state
    simpa [await, raises_cons, Event.raised?] using joined

theorem raises_finish (state : State) (name : String) (lineno : Nat) :
    (state.finish name lineno).trace.Raises fault ↔
      (state.finish name lineno).result = .error fault := by
  have waited := raises_join uncaught state
  have logged (entries : List Entry) := @Quiet.not_raises fault _ (quiet_ofEntries entries)
  have ends := state.finishes name lineno
  generalize state.finish name lineno = run at ends ⊢
  cases ends with
  | idle => simp [Raises]
  | ended joined => simp [raises_append, logged, waited, joined]
  | @failed failure output joined =>
    have stray : .command failure output ≠ fault := Fault.ne_of_uncaught uncaught rfl
    have located : .execution name lineno "wait" (.command failure output) ≠ fault :=
      Fault.ne_of_uncaught uncaught rfl
    simp [raises_append, logged, waited, joined, stray, located]
  | broken joined => simp [waited, joined]

/-- A fault that is caught is no uncaught one, so the wait behind it counts alone. -/
theorem raises_abandon (state : State) {reason : Fault} (caught : reason.isCaught = true) :
    (state.abandon reason).trace.Raises fault ↔ (state.abandon reason).result = .error fault := by
  have other := Fault.ne_of_uncaught uncaught caught
  have waited := raises_join uncaught state
  have ends := state.abandons reason
  generalize state.abandon reason = run at ends ⊢
  cases ends with
  | idle => simp [Raises, other]
  | ended joined => simp [waited, joined, other]
  | @failed failure output joined =>
    have stray : .command failure output ≠ fault := Fault.ne_of_uncaught uncaught rfl
    simp [raises_append, not_raises_logged, waited, joined, stray, other]
  | broken joined => simp [waited, joined]

/-- The fault of a source is raised by nothing that happens meanwhile. -/
theorem raises_interrupt (state : State) (reason : Fault) :
    (state.interrupt reason).result = .error fault ↔
      (state.interrupt reason).trace.Raises fault ∨ reason = fault := by
  rcases state.interrupt_cases reason with ⟨execution, ended⟩ | ⟨_, ended⟩
  · have caught : reason.isCaught = true := by
      cases reason <;> first | rfl | cases execution
    have other := Fault.ne_of_uncaught uncaught caught
    simp [ended, raises_abandon uncaught state caught, other]
  · simp [ended, not_raises_nil]

end State

/-! ## Lines -/

namespace Engine
open Trace

/-- An uncaught fault ends an effect just if it was raised meanwhile, and a refusal by the system
never does. -/
structure Effect.Faithful (effect : Effect) : Prop where
  raises : ∀ fault, fault.isCaught = false →
    (effect.2.1.Raises fault ↔ effect.2.2 = .error fault)
  system : ∀ refusal, effect.2.2 ≠ .error (.system refusal)

theorem Effect.Faithful.of_script {state : State} {trace : Trace} {result : Except Fault Unit}
    (quiet : trace.Quiet) (script : ∀ fault, result = .error fault → fault.isScript = true) :
    Effect.Faithful (state, trace, result) where
  raises fault uncaught := by
    refine iff_of_false quiet.not_raises fun failed => ?_
    have foreign := Fault.isScript_of_uncaught uncaught
    rw [script fault failed] at foreign
    cases foreign
  system refusal failed := by cases script _ failed

/-- The end of a line whose command or handle has raised a fault. -/
theorem concludeFault_faithful (want : Script.Expect) (state : State) {before : Trace}
    {raised : Fault}
    (came : ∀ fault, fault.isCaught = false → (before.Raises fault ↔ raised = fault)) :
    Effect.Faithful (Effect.after before (concludeFault want state raised)) := by
  unfold concludeFault
  cases told : Outcome.ofFault? raised.asFailure with
  | some outcome =>
    obtain ⟨trace, ended, quiet, script, _, concluded⟩ := conclude_spec want state outcome
    have plain : Effect.Faithful (state.record outcome.output, trace, ended) :=
      .of_script quiet script
    show Effect.Faithful (Effect.after before (conclude want state outcome))
    rw [concluded]
    constructor
    · intro fault uncaught
      have other : raised ≠ fault := by
        rintro rfl
        rw [Fault.asFailure_of_uncaught uncaught, Fault.ofFault?_of_uncaught uncaught] at told
        cases told
      simp only [Effect.after, raises_append, came fault uncaught, other, false_or]
      exact plain.raises fault uncaught
    · exact plain.system
  | none =>
    constructor
    · intro fault uncaught
      simp [Effect.after, came fault uncaught]
    · rintro refusal ⟨⟩
      cases told

theorem concludeResult_faithful (want : Script.Expect) (state : State) {before : Trace}
    {result : Except Fault Output}
    (came : ∀ fault, fault.isCaught = false → (before.Raises fault ↔ result = .error fault)) :
    Effect.Faithful (Effect.after before (concludeResult want state result)) := by
  cases result with
  | error raised =>
    refine concludeFault_faithful want state fun fault uncaught => ?_
    rw [came fault uncaught]
    simp
  | ok output =>
    obtain ⟨trace, ended, quiet, script, _, concluded⟩ := conclude_spec want state ⟨output, none⟩
    have plain : Effect.Faithful (state.record output, trace, ended) := .of_script quiet script
    rw [concludeResult, concluded]
    constructor
    · intro fault uncaught
      have silent : ¬before.Raises fault := by simp [came fault uncaught]
      simp only [Effect.after, raises_append, silent, false_or]
      exact plain.raises fault uncaught
    · exact plain.system

theorem Effect.Faithful.after {before : Trace} {effect : Effect} (faithful : Effect.Faithful effect)
    (silent : ∀ fault, ¬before.Raises fault) : Effect.Faithful (Effect.after before effect) where
  raises fault uncaught := by
    simp only [Effect.after, raises_append, silent fault, false_or]
    exact faithful.raises fault uncaught
  system := faithful.system

theorem handleReply_faithful (line : Script.Line) (state : State) (reply : Reply) :
    Effect.Faithful (Effect.after [.called line reply] (handleReply line state reply)) := by
  cases reply with
  | done =>
    refine Effect.Faithful.after (.of_script quiet_nil fun fault failed => ?_) ?_
    · cases expected : line.want.failure? none with
      | none => simp [expected] at failed
      | some failure =>
        simp only [expected] at failed
        cases failed
        rfl
    · simp [Raises, Event.raised?]
  | fault raised =>
    refine concludeFault_faithful line.want state fun fault _ => ?_
    simp [Raises, Event.raised?]
  | handle handle =>
    have silent (fault : Fault) : ¬Raises [.called line (.handle handle)] fault := by
      simp [Raises, Event.raised?]
    rw [handleReply]
    by_cases background : line.background = true
    · rw [if_pos background]
      exact .after (.of_script quiet_nil (by simp)) silent
    · rw [if_neg background]
      refine .after ?_ silent
      exact concludeResult_faithful line.want _ fun fault uncaught =>
        state.raises_await uncaught handle

theorem runLine_faithful (engine : Engine) (line : Script.Line) (state : State) :
    Effect.Faithful (engine.runLine line state) := by
  rcases engine.runLine_cases line state with
    ⟨trace, result, quiet, script, ran⟩ | ⟨trace, command, after, reply, quiet, _, _, ran⟩
  · rw [ran]
    exact .of_script quiet script
  · have called := (handleReply_faithful line after reply).after fun _ => quiet.not_raises
    rw [ran]
    simpa only [Effect.after, List.append_assoc] using called

end Engine

/-- What escapes from a line is an uncaught fault that was raised. -/
theorem Step.ofEffect_escape {text : String} {effect : Effect}
    (faithful : Engine.Effect.Faithful effect) (fault : Fault) :
    (ofEffect text effect).sequel = .escape fault ↔
      fault.isCaught = false ∧ (ofEffect text effect).trace.Raises fault := by
  obtain ⟨last, sequel, quiet, escaping, made⟩ := ofEffect_spec text effect
  have still : (effect.2.1 ++ last).Raises fault ↔ effect.2.1.Raises fault := by
    simp [Trace.raises_append, quiet.not_raises]
  simp only [made, still]
  constructor
  · intro escaped
    obtain ⟨failed, foreign, unstopped⟩ := escaping fault escaped
    have uncaught : fault.isCaught = false := by
      cases fault with
      | stop message => exact absurd rfl (unstopped message)
      | system refusal => exact absurd failed (faithful.system refusal)
      | _ => exact foreign
    exact ⟨uncaught, (faithful.raises fault uncaught).mpr failed⟩
  · rintro ⟨uncaught, raised⟩
    have failed := (faithful.raises fault uncaught).mp raised
    obtain ⟨state, trace, result⟩ := effect
    cases failed
    have same : sequel = (ofEffect text (state, trace, .error fault)).sequel := by rw [made]
    rw [same]
    cases fault <;> first | rfl | cases uncaught

namespace Engine
open Trace

theorem step_escape (engine : Engine) (raw : String) (state : State) (fault : Fault) :
    (engine.step raw state).sequel = .escape fault ↔
      fault.isCaught = false ∧ (engine.step raw state).trace.Raises fault := by
  obtain ⟨_, stepped⟩ | ⟨_, ⟨_, stepped⟩ | ⟨_, stepped⟩ | ⟨_, _, stepped⟩ | ⟨line, _, stepped⟩⟩ :=
    engine.step_shape raw state
  all_goals rw [stepped]
  · simp [not_raises_nil]
  · simp [not_raises_logged]
  · simp [not_raises_logged]
  · simp [not_raises_nil]
  · exact Step.ofEffect_escape (engine.runLine_faithful line state) fault

theorem runLines_escape (engine : Engine) (name : String) (count : Nat) (lines : List String)
    (state : State) (fault : Fault) :
    (engine.runLines name count lines state).ending = .escaped fault ↔
      fault.isCaught = false ∧ (engine.runLines name count lines state).trace.Raises fault := by
  induction lines generalizing count state with
  | nil => simp [runLines, not_raises_nil]
  | cons raw rest ih =>
    have stepped := engine.step_escape raw state
    rw [runLines]
    cases sequel : (engine.step raw state).sequel with
    | next =>
      have silent (uncaught : fault.isCaught = false) :
          ¬(engine.step raw state).trace.Raises fault := by
        intro raised
        simp [(stepped fault).mpr ⟨uncaught, raised⟩] at sequel
      simp only [Progress.after, raises_append, ih]
      exact and_congr_right fun uncaught => (or_iff_right (silent uncaught)).symm
    | stop => simpa [sequel] using stepped fault
    | fail text cause => simpa [sequel] using stepped fault
    | escape other =>
      simp only
      rw [← stepped fault, sequel]
      simp

/-- An uncaught fault is what a script ends in just if it was raised meanwhile, or met in reading
behind lines that were finished. -/
theorem execute_escapes (engine : Engine) (name : String) (source : Source) (state : State)
    {fault : Fault} (uncaught : fault.isCaught = false) :
    let run := engine.execute name source state
    run.result = .error fault ↔ run.trace.Raises fault ∨
      source.failure = some fault ∧
        ∃ lineno, (engine.advance name source.lines state).ending = .finished lineno := by
  intro run
  let progress := engine.advance name source.lines state
  have lines : progress.ending = .escaped fault ↔ progress.trace.Raises fault :=
    (engine.runLines_escape name 0 source.lines (engine.attach state) fault).trans
      (and_iff_right uncaught)
  have trace : run.trace.Raises fault ↔ progress.ending = .escaped fault ∨
      (progress.ending.run name source.failure progress.state).trace.Raises fault := by
    rw [lines]
    exact raises_append
  have result : run.result = (progress.ending.run name source.failure progress.state).result := rfl
  rw [trace, result]
  cases ending : progress.ending with
  | finished lineno =>
    cases failure : source.failure with
    | none => simpa [Ending.run] using (progress.state.raises_finish uncaught name lineno).symm
    | some other => simpa [Ending.run] using progress.state.raises_interrupt uncaught other
  | stopped lineno =>
    simpa [Ending.run] using (progress.state.raises_finish uncaught name lineno).symm
  | failed lineno text cause =>
    simpa [Ending.run] using (progress.state.raises_abandon uncaught rfl).symm
  | escaped other => simp [Ending.run, not_raises_nil]

end Engine

end LineScript
