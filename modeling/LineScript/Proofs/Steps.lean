import LineScript.Execution

/-!
# What a line can do
A line either leaves the state alone, or it calls one command and goes on with what the command
hands back (`runLine_cases`, `step_cases`; with all that happens on the way, `runLine_shape` and
`step_shape`). Every property that lines keep is derived from this.
-/
namespace LineScript

namespace Trace

/-- Nothing but the log and guards has to do with the trace. -/
def Quiet (trace : Trace) : Prop :=
  ∀ event ∈ trace, match event with
    | .logged _ | .tested _ => True
    | _ => False

theorem quiet_nil : Quiet [] := by simp [Quiet]

theorem Quiet.cons {event : Event} {trace : Trace} (first : Quiet [event]) (rest : Quiet trace) :
    Quiet (event :: trace) := by
  intro other member
  rcases List.mem_cons.mp member with rfl | later
  · exact first other (by simp)
  · exact rest other later

theorem Quiet.append {first second : Trace} (begins : Quiet first) (ends : Quiet second) :
    Quiet (first ++ second) := by
  intro event member
  rcases List.mem_append.mp member with early | late
  · exact begins event early
  · exact ends event late

theorem quiet_ofEntries (entries : List Entry) : Quiet (ofEntries entries) := by
  intro event member
  obtain ⟨entry, _, rfl⟩ := List.mem_map.mp member
  trivial

end Trace

namespace Engine
open Trace

/-- Guards are only evaluated, and what goes wrong with them is a fault of the script. -/
theorem guardsHold_tested (engine : Engine) (scene : Scene) (guards : List Script.Guard) :
    (∃ tests : List Script.Guard,
        (engine.guardsHold scene guards).1 = tests.map Event.tested) ∧
      ∀ fault, (engine.guardsHold scene guards).2 = .error fault → fault.isScript = true := by
  induction guards with
  | nil => exact ⟨⟨[], rfl⟩, by simp [guardsHold]⟩
  | cons guard rest ih =>
    rw [guardsHold]
    cases engine.condition guard with
    | error fault =>
      refine ⟨⟨[], rfl⟩, ?_⟩
      rintro _ ⟨⟩
      rfl
    | ok condition =>
      simp only
      cases condition.holds scene guard.suffix with
      | error fault =>
        refine ⟨⟨[guard], rfl⟩, ?_⟩
        rintro _ ⟨⟩
        by_cases script : fault.isScript = true
        · rwa [if_pos script]
        · rw [if_neg script]
          rfl
      | ok value =>
        by_cases same : value = guard.negated
        · simp only [same, if_true]
          exact ⟨⟨[guard], rfl⟩, by simp⟩
        · obtain ⟨⟨tests, tested⟩, script⟩ := ih
          simp only [same, if_false]
          exact ⟨⟨guard :: tests, by rw [tested, List.map_cons]⟩, script⟩

/-- A line whose outcome is known records the output. It ends well if the outcome was expected, and
in a fault of the script if it was not. -/
theorem conclude_spec (want : Script.Expect) (state : State) (outcome : Outcome) :
    ∃ trace ended, Quiet trace ∧ (∀ fault, ended = .error fault → fault.isScript = true) ∧
      (ended = .ok () ↔ want.failure? outcome.failure = none) ∧
      conclude want state outcome = (state.record outcome.output, trace, ended) := by
  refine ⟨_, _, quiet_ofEntries _, ?_, ?_, rfl⟩
  · intro fault failed
    cases expected : want.failure? outcome.failure with
    | none =>
      rw [expected] at failed
      cases failed
    | some failure =>
      rw [expected] at failed
      rcases outcome with ⟨output, _ | reason⟩ <;> cases failed <;> rfl
  · cases want.failure? outcome.failure with
    | none => simp
    | some failure => rcases outcome with ⟨output, _ | reason⟩ <;> simp

theorem concludeResult_of_known (want : Script.Expect) (state : State)
    {result : Except Fault Output} {outcome : Outcome}
    (known : Outcome.ofResult result = .ok outcome) :
    concludeResult want state result = conclude want state outcome := by
  cases result with
  | ok output =>
    cases known
    rfl
  | error fault =>
    cases fault <;> cases known
    rfl

theorem concludeResult_spec (want : Script.Expect) (state : State) {result : Except Fault Output}
    {outcome : Outcome} (known : Outcome.ofResult result = .ok outcome) :
    ∃ trace ended, Quiet trace ∧ (∀ fault, ended = .error fault → fault.isScript = true) ∧
      (ended = .ok () ↔ want.failure? outcome.failure = none) ∧
      concludeResult want state result = (state.record outcome.output, trace, ended) := by
  rw [concludeResult_of_known want state known]
  exact conclude_spec want state outcome

/-- A line echoes its text and evaluates guards. Then it ends in a fault of the script, or it is
skipped, or it calls its command. -/
theorem runLine_shape (engine : Engine) (line : Script.Line) (state : State) :
    ∃ tests : List Script.Guard, (∃ fault, fault.isScript = true ∧ engine.runLine line state =
        (state, .logged (.echo line.raw) :: tests.map .tested, .error fault)) ∨
      engine.runLine line state =
        (state, .logged (.echo line.raw) :: (tests.map .tested ++ [.logged .skipped]), .ok ()) ∨
      ∃ command after reply, engine.commands.find? line.name = some command ∧
        command.run line.args state = (after, reply) ∧ engine.runLine line state =
          Effect.after (.logged (.echo line.raw) :: (tests.map .tested ++ [.called line reply]))
            (handleReply line after reply) := by
  obtain ⟨⟨tests, tested⟩, script⟩ := engine.guardsHold_tested state.toScene line.guards
  refine ⟨tests, ?_⟩
  rw [runLine]
  rcases guarded : engine.guardsHold state.toScene line.guards with ⟨trace, fault | _ | _⟩
  all_goals rw [guarded] at tested script
  · left
    exact ⟨fault, script fault rfl, by simp only [← tested]; rfl⟩
  · right; left
    simp only [← tested]
    rfl
  · simp only [runCommand, ← tested]
    cases found : engine.commands.find? line.name with
    | none =>
      left
      exact ⟨.line (.unknownCommand line.name), rfl, by simp [Effect.after]⟩
    | some command =>
      by_cases foreground : (line.background && !command.usage.isAsync) = true
      · left
        exact ⟨.usage (.noBackground line.name), rfl, by simp [Effect.after, foreground]⟩
      · right; right
        refine ⟨command, _, _, rfl, rfl, ?_⟩
        simp only [Effect.after, foreground, List.cons_append, List.append_assoc]
        rfl

/-- A line leaves the state alone, with a fault of the script or without; or it calls a command. -/
theorem runLine_cases (engine : Engine) (line : Script.Line) (state : State) :
    (∃ trace result, Quiet trace ∧ (∀ fault, result = .error fault → fault.isScript = true) ∧
      engine.runLine line state = (state, trace, result)) ∨
    ∃ trace command after reply, Quiet trace ∧ engine.commands.find? line.name = some command ∧
      command.run line.args state = (after, reply) ∧ engine.runLine line state =
        Effect.after (trace ++ [.called line reply]) (handleReply line after reply) := by
  have quiet (tests : List Script.Guard) :
      Quiet (.logged (.echo line.raw) :: tests.map Event.tested) := by simp [Quiet]
  obtain ⟨tests, ⟨fault, script, ran⟩ | ran | ⟨command, after, reply, found, replied, ran⟩⟩ :=
    engine.runLine_shape line state
  · left
    refine ⟨_, .error fault, quiet tests, ?_, ran⟩
    rintro _ ⟨⟩
    exact script
  · left
    have skipped : Quiet [.logged .skipped] := by simp [Quiet]
    exact ⟨_, .ok (), (quiet tests).append skipped, by simp, ran⟩
  · right
    exact ⟨_, command, after, reply, quiet tests, found, replied, ran⟩

end Engine

/-- A step makes the state of its effect, adds at most an entry of the log to what happened, and
lets only faults escape that are none of scripts, nor stops. -/
theorem Step.ofEffect_spec (text : String) (effect : Effect) :
    ∃ last sequel, Trace.Quiet last ∧
      (∀ fault, sequel = .escape fault → effect.2.2 = .error fault ∧ fault.isScript = false ∧
        ∀ message, fault ≠ .stop message) ∧
      ofEffect text effect = ⟨effect.1, effect.2.1 ++ last, sequel⟩ := by
  have logged (entry : Entry) : Trace.Quiet [.logged entry] := by simp [Trace.Quiet]
  obtain ⟨state, trace, result⟩ := effect
  simp only [ofEffect]
  split
  · exact ⟨[], .next, Trace.quiet_nil, by simp, by simp⟩
  · exact ⟨_, .stop, logged _, by simp, rfl⟩
  · rename_i fault unstopped
    by_cases script : fault.isScript = true
    · rw [if_pos script]
      exact ⟨_, .fail text fault, logged _, by simp, rfl⟩
    · rw [if_neg script]
      refine ⟨[], .escape fault, Trace.quiet_nil, ?_, by simp⟩
      rintro _ ⟨⟩
      exact ⟨rfl, by simpa using script, by simpa using unstopped⟩

theorem Step.ofEffect_script {fault : Fault} (script : fault.isScript = true) (text : String)
    (state : State) (trace : Trace) : ofEffect text (state, trace, .error fault) =
      ⟨state, trace ++ [.logged (.note fault.message)], .fail text fault⟩ := by
  cases fault with
  | stop message => cases script
  | _ => first | rfl | cases script

namespace Engine
open Trace

/-- A line is not read in a canceled scope. Otherwise it is a comment, or it cannot be read, or it
is blank, or it is run. -/
theorem step_shape (engine : Engine) (raw : String) (state : State) :
    let text := Text.strip (Text.stripLineEnd raw)
    (state.isCanceled = true ∧ engine.step raw state = ⟨state, [], .fail text (.line .canceled)⟩) ∨
    state.isCanceled = false ∧
      ((Script.isComment text = true ∧
        engine.step raw state = ⟨state, [.logged (.comment text)], .next⟩) ∨
      (∃ fault : Script.SyntaxFault, engine.step raw state =
        ⟨state, [.logged (.note fault.message)], .fail text (.parse fault)⟩) ∨
      (Script.isComment text = false ∧
        Script.Line.parse (Text.stripLineEnd raw) state.env.expand = .ok none ∧
          engine.step raw state = ⟨state, [], .next⟩) ∨
      ∃ line, Script.Line.parse (Text.stripLineEnd raw) state.env.expand = .ok (some line) ∧
        engine.step raw state = .ofEffect line.raw (engine.runLine line state)) := by
  intro text
  unfold step
  by_cases canceled : state.isCanceled = true
  · left
    exact ⟨canceled, by rw [if_pos canceled]⟩
  right
  refine ⟨by simpa using canceled, ?_⟩
  simp only [if_neg canceled]
  by_cases comment : Script.isComment text = true
  · left
    exact ⟨comment, by rw [if_pos comment]⟩
  right
  rw [if_neg comment]
  rcases read : Script.Line.parse (Text.stripLineEnd raw) state.env.expand with fault | _ | line
  · left
    exact ⟨fault, rfl⟩
  · right; left
    exact ⟨by simpa using comment, rfl, rfl⟩
  · right; right
    exact ⟨line, rfl, rfl⟩

/-- A step leaves the state alone and nothing escapes it; or it calls a command. -/
theorem step_cases (engine : Engine) (raw : String) (state : State) :
    (∃ trace sequel, Quiet trace ∧ (∀ fault, sequel ≠ .escape fault) ∧
      engine.step raw state = ⟨state, trace, sequel⟩) ∨
    ∃ trace line command after reply, Quiet trace ∧
      engine.commands.find? line.name = some command ∧
      command.run line.args state = (after, reply) ∧ engine.step raw state = .ofEffect line.raw
        (Effect.after (trace ++ [.called line reply]) (handleReply line after reply)) := by
  have logged (entry : Entry) : Quiet [.logged entry] := by simp [Quiet]
  obtain ⟨_, stepped⟩ | ⟨_, ⟨_, stepped⟩ | ⟨fault, stepped⟩ | ⟨_, _, stepped⟩ | ⟨line, _, stepped⟩⟩ :=
    engine.step_shape raw state
  · left
    exact ⟨[], .fail _ (.line .canceled), quiet_nil, by simp, stepped⟩
  · left
    exact ⟨_, .next, logged _, by simp, stepped⟩
  · left
    exact ⟨_, .fail _ (.parse fault), logged _, by simp, stepped⟩
  · left
    exact ⟨[], .next, quiet_nil, by simp, stepped⟩
  rcases engine.runLine_cases line state with
    ⟨trace, result, quiet, script, ran⟩ | ⟨trace, command, after, reply, quiet, found, replied, ran⟩
  · left
    obtain ⟨last, sequel, silent, escaping, made⟩ :=
      Step.ofEffect_spec line.raw (state, trace, result)
    refine ⟨trace ++ last, sequel, quiet.append silent, ?_, by simp only [stepped, ran, made]⟩
    intro fault escaped
    obtain ⟨ended, foreign, _⟩ := escaping fault escaped
    simp [script fault ended] at foreign
  · right
    exact ⟨trace, line, command, after, reply, quiet, found, replied, by simp only [stepped, ran]⟩

end Engine

/-- The script ended well, or in a fault that names one of its lines. -/
def Run.Ended (run : Run) (name : String) : Prop :=
  run.result = .ok () ∨ ∃ lineno text cause, run.result = .error (.execution name lineno text cause)

end LineScript
