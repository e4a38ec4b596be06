import LineScript.Proofs.Composition
import LineScript.Proofs.Leftovers
import LineScript.Proofs.Reports

/-!
# Scripts that break off
Where reading fails behind lines that are finished, the script ends then and there: the report has
what these lines have written and logged, and what they have left in the background is not awaited.
Where lines fail or stop the script, nobody comes to read further, and the report is the one of a
script that has no more lines (`runScript_interrupted`).
-/
namespace LineScript

namespace Engine
variable {engine : Engine} {name : String} {lines : List String} {state : State}

/-! ## What is still outstanding -/

/-- What is still in the background is the end of what was sent there, and none of it is among what
was collected. -/
theorem Moves.outstanding {after : State} {trace : Trace} (aloof : engine.Aloof)
    (moves : engine.Moves state trace after) : ∃ gone, trace.collected.Sublist gone ∧
      state.outstanding ++ trace.sent = gone ++ after.outstanding := by
  have hands : engine.Hands fun _ => True := by
    intro _ command _
    exact ⟨fun _ _ _ _ _ => trivial, fun _ _ _ _ => trivial⟩
  have waits (state : State) (_ : state.Holds fun _ => True) :
      state.join.2.1.collected.Sublist state.outstanding :=
    (awaitAll_collects state.background state.toScene).2.sublist
  exact moves.queue List.Sublist hands aloof (List.Sublist.refl [])
    (fun _ _ _ _ front behind => front.append behind) waits fun _ _ => trivial

theorem aloof_of_named {naming : String} (named : standard.extendNamed naming = .ok engine) :
    engine.Aloof := by
  cases known : Builtin.Naming.read? naming with
  | none => simp [extendNamed, known] at named
  | some naming =>
    obtain rfl : standard.extend naming = engine := by simpa [extendNamed, known] using named
    intro name command found
    exact ((@contained_extend True (fun _ => none) naming).commands name command found).aloof

/-! ## Sources that break off -/

/-- A script that breaks off behind lines that are finished leaves what they have left. -/
theorem execute_unread_of_finished {lineno : Nat} {fault : Fault} (reading : fault.IsReading)
    (finished : (engine.advance name lines state).ending = .finished lineno) :
    engine.execute name ⟨lines, some fault⟩ state =
      ⟨(engine.advance name lines state).state, (engine.advance name lines state).trace,
        .error fault⟩ := by
  have raised : fault.isExecution = false := by
    cases fault <;> first | rfl | cases reading
  simp [execute, finished, Ending.run, State.interrupt, raised, Run.after]

/-- Lines that are not finished end a script whether or not it could be read further. -/
theorem execute_unread_of_early (failure : Option Fault)
    (early : ∀ lineno, (engine.advance name lines state).ending ≠ .finished lineno) :
    engine.execute name ⟨lines, failure⟩ state = engine.execute name (.ofLines lines) state := by
  have same := run_of_not_finished early name failure (engine.advance name lines state).state
  exact congrArg (Run.after (engine.advance name lines state).trace) same

end Engine

/-! ## Reports of scripts that break off -/

/-- The lines are run on a fresh engine and state, and they are finished: none fails or stops the
script. -/
structure Settings.Completes (settings : Settings) (machine : Machine) (name : String)
    (lines : List String) (engine : Engine) (state : State) : Prop where
  named : Engine.standard.extendNamed settings.naming = .ok engine
  created : settings.state machine = .ok state
  finished : (engine.advance name lines state).ending = .finished lines.length

namespace Settings

variable {settings : Settings} {machine : Machine} {name : String} {lines : List String}

/-- Where no line is left to be read, reading cannot fail any more. -/
theorem runScript_of_not_completes (failure : Option Fault)
    (early : ∀ engine state, ¬settings.Completes machine name lines engine state) :
    settings.runScript machine name ⟨lines, failure⟩ =
      settings.runScript machine name (.ofLines lines) := by
  unfold runScript
  cases named : Engine.standard.extendNamed settings.naming with
  | error fault => rfl
  | ok engine =>
    cases created : settings.state machine with
    | error fault => rfl
    | ok state =>
      have unfinished (lineno : Nat) :
          (engine.advance name lines state).ending ≠ .finished lineno := by
        intro finished
        have all := engine.lineno_of_finished name 0 lines _ finished
        rw [Nat.zero_add] at all
        subst all
        exact early engine state ⟨named, created, finished⟩
      simp only [Engine.execute_unread_of_early failure unfinished]

/-- A script that breaks off where a line would have to be read. If the lines in front of it are
finished, the report has what they have written and logged, without a wait at the end: what is still
outstanding then comes behind all that was collected. It fails with what reading has met. If the
lines are not finished, that is never met. -/
theorem runScript_interrupted {fault : Fault} (reading : fault.IsReading) :
    let broken := settings.runScript machine name ⟨lines, some fault⟩
    (∀ engine state, settings.Completes machine name lines engine state →
      let reached := engine.advance name lines state
      broken.result =
          .ok ⟨reached.state.written, reached.trace.log, some (.unread name fault)⟩ ∧
        (Fault.unread name fault).message = "read " ++ name ++ ": " ++ fault.message ∧
        ∃ gone, reached.trace.collected.Sublist gone ∧
          reached.trace.sent = gone ++ reached.state.outstanding) ∧
    ((∀ engine state, ¬settings.Completes machine name lines engine state) →
      broken = settings.runScript machine name (.ofLines lines)) := by
  intro broken
  refine ⟨?_, runScript_of_not_completes (some fault)⟩
  intro engine state completes reached
  have performed : broken =
      (engine.execute name ⟨lines, some fault⟩ state).performance name := by
    simp only [broken, runScript, completes.named, completes.created]
  have left := engine.execute_unread_of_finished reading completes.finished
  refine ⟨?_, rfl, ?_⟩
  · rw [performed, left]
    exact Run.performance_of_reading name reading rfl
  · obtain ⟨gone, collected, queue⟩ := (engine.advance_moves name lines state).outstanding
      (Engine.aloof_of_named completes.named)
    obtain ⟨pwd, env, rfl⟩ := state_eq_start completes.created
    exact ⟨gone, collected, queue⟩

/-- A command that sleeps in the background is not awaited where the script breaks off behind it. -/
theorem runScript_interrupted_asleep :
    let settings : Settings := ⟨false, false, false, "short", "/"⟩
    let machine : Machine := .empty
    let cause := Fault.system (.worded 5 "Input/output error")
    let engine := Engine.standard.extend .short
    let state := State.start machine "/" .empty
    settings.Completes machine "s" ["sleep 1s &\n"] engine state ∧
      (engine.advance "s" ["sleep 1s &\n"] state).state.outstanding ≠ [] ∧
      (settings.runScript machine "s" ⟨["sleep 1s &\n"], some cause⟩).result =
        .ok ⟨.empty, "> sleep 1s &\n", some (.unread "s" cause)⟩ := by
  intro settings machine cause engine state
  let line : Script.Line := ⟨"sleep 1s &", "sleep", ["1s"], [], .success, true⟩
  have words : Script.rawWords "sleep 1s &" =
      .ok [[.plain "sleep".toList], [.plain "1s".toList], [.plain "&".toList]] := rfl
  have read : Script.Line.parse line.raw (engine.attach state).env.expand = .ok (some line) :=
    @Script.Line.parse_plain _ _ _ "leep 1s ".toList rfl rfl rfl (by decide) _ words (by simp) _
      rfl state.env
  let pause : Handle := .task fun scene => (scene.pause, .ok .empty)
  have slept : Builtin.sleep line.args (engine.attach state) = .ok (.handle pause) := rfl
  have replied : (Builtin.looking ⟨"sleep for a specified duration", "duration", [], true⟩
      Builtin.sleep).run line.args (engine.attach state) = (engine.attach state, .handle pause) := by
    simp [Command.run, Builtin.looking, Builtin.replyOf, slept]
  have stepped := @Engine.step_called engine line _ _ _ _ rfl read rfl rfl (fun _ => rfl) replied
  have advanced : engine.advance "s" ["sleep 1s &\n"] state =
      ⟨{ engine.attach state with background := [⟨"sleep 1s &", pause, .success⟩] },
        [.logged (.echo "sleep 1s &"), .called line (.handle pause)], .finished 1⟩ := by
    rw [Engine.advance, Engine.runLines, show "sleep 1s &\n" = line.raw ++ "\n" from rfl, stepped]
    rfl
  have created : settings.state machine = .ok state := State.create_root machine rfl
  have completes : settings.Completes machine "s" ["sleep 1s &\n"] engine state :=
    ⟨rfl, created, by rw [advanced]; rfl⟩
  have reading : cause.IsReading := trivial
  obtain ⟨reported, _⟩ := (runScript_interrupted reading).1 engine state completes
  rw [advanced] at reported ⊢
  exact ⟨completes, by simp [State.outstanding], reported⟩

end Settings

end LineScript
