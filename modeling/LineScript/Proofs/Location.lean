import LineScript.Proofs.Cancellation
import LineScript.Proofs.Causes
import LineScript.Proofs.Outcomes

/-!
# Where a script failed
The fault that a script fails with names the line that failed, by its number among all lines of the
script and by its text: the lines before it are finished, and those behind it are not looked at.
Only if no line has failed, it is the wait at the end of the script that did, and the fault tells
how many lines were read until then (`execute_locates`).
-/
namespace LineScript

/-! ## Ends of scripts -/

/-- A last wait fails with a failure of commands, or with what a handle ended in. -/
theorem State.finish_failed {state : State} {name : String} {lineno : Nat} {fault : Fault}
    (failed : (state.finish name lineno).result = .error fault) :
    (∃ failure output, fault = .execution name lineno "wait" (.command failure output) ∧
        state.join.2.2 = .error (.command failure output)) ∨
      ∃ handle, .collected handle (.error fault) ∈ (state.finish name lineno).trace := by
  have ends := state.finishes name lineno
  generalize state.finish name lineno = run at ends failed ⊢
  cases ends with
  | idle => cases failed
  | ended => cases failed
  | @failed failure output joined =>
    cases failed
    exact .inl ⟨failure, output, rfl, joined⟩
  | broken joined foreign =>
    cases failed
    exact .inr (state.collected_of_join_error joined foreign)

/-- A script fails with what its source or a handle in the background ends in, or at the line at
which its lines fail, or in its last wait. -/
theorem Ending.run_located {ending : Ending} {name : String} {failure : Option Fault} {state : State}
    {owner text : String} {lineno : Nat} {cause : Fault}
    (caught : ∀ fault, ending = .escaped fault → fault.isScript = false)
    (failed :
      (ending.run name failure state).result = .error (.execution owner lineno text cause)) :
    (failure = some (.execution owner lineno text cause) ∨
      ∃ handle, .collected handle (.error (.execution owner lineno text cause)) ∈
        (ending.run name failure state).trace) ∨
    owner = name ∧ (ending = .failed lineno text cause ∨
      (ending = .finished lineno ∧ failure = none ∨ ending = .stopped lineno) ∧ text = "wait" ∧
        ∃ failure output, cause = .command failure output ∧
          state.join.2.2 = .error (.command failure output)) := by
  cases ending with
  | finished number =>
    cases failure with
    | some fault =>
      obtain rfl | passed := State.interrupt_failed failed
      · exact .inl (.inl rfl)
      · exact .inl (.inr passed)
    | none =>
      obtain ⟨failure, output, same, joined⟩ | passed := State.finish_failed failed
      · cases same
        exact .inr ⟨rfl, .inr ⟨.inl ⟨rfl, rfl⟩, rfl, failure, output, rfl, joined⟩⟩
      · exact .inl (.inr passed)
  | stopped number =>
    obtain ⟨failure, output, same, joined⟩ | passed := State.finish_failed failed
    · cases same
      exact .inr ⟨rfl, .inr ⟨.inr rfl, rfl, failure, output, rfl, joined⟩⟩
    · exact .inl (.inr passed)
  | failed number line reason =>
    obtain same | passed :=
      (state.abandon_aftermath (.execution name number line reason)).2 _ failed
    · cases same
      exact .inr ⟨rfl, .inl rfl⟩
    · exact .inl (.inr passed)
  | escaped fault =>
    cases failed
    cases caught _ rfl

namespace Engine

/-! ## The line that is named -/

/-- A line that fails is named by its text without the blanks at its ends. -/
theorem step_fail_text {engine : Engine} {raw text : String} {state : State} {cause : Fault}
    (failed : (engine.step raw state).sequel = .fail text cause) : text = Text.strip raw := by
  rw [← Text.strip_stripLineEnd]
  obtain ⟨_, stepped⟩ | ⟨_, ⟨_, stepped⟩ | ⟨_, stepped⟩ | ⟨_, _, stepped⟩ | ⟨line, read, stepped⟩⟩ :=
    engine.step_shape raw state
  all_goals rw [stepped] at failed
  · exact (Sequel.fail.inj failed).1.symm
  · cases failed
  · exact (Sequel.fail.inj failed).1.symm
  · cases failed
  · rw [Step.ofEffect_failed failed] at failed
    obtain ⟨raw, _⟩ := Script.Line.words_of_parse read
    exact (Sequel.fail.inj failed).1.symm.trans raw

section
variable (engine : Engine) (name : String) (source : Source) (state : State)

/-- What the fault of a script tells of where it failed. A line has failed, and then it is named by
its number and its text: the lines before it are finished, it is the first that fails, and those
behind it make no difference. Or no line has failed but the wait at the end of the script has, and
then it is named by the number of lines that are read: all of them, or those up to one that stops
the script. -/
inductive Located : Nat → String → Fault → Prop where
  | line {count : Nat} {raw : String} {cause : Fault} (next : source.lines[count]? = some raw)
    (before : (engine.advance name (source.lines.take count) state).ending = .finished count)
    (fails : engine.FailsAt name source state count (Text.strip raw) cause)
    (unread : ∀ other : Source,
      other.lines.take (count + 1) = source.lines.take (count + 1) →
        engine.execute name other state = engine.execute name source state)
    (behind : ∃ rest : Trace, rest.Passive ∧ (engine.execute name source state).trace =
      (engine.advance name (source.lines.take (count + 1)) state).trace ++ rest) :
    Located (count + 1) (Text.strip raw) cause
  | stopped {count : Nat} {raw : String} {failure : Failure} {output : Output}
    (next : source.lines[count]? = some raw)
    (before : (engine.advance name (source.lines.take count) state).ending = .finished count)
    (stops : engine.StopsAt name source state count)
    (joined : (engine.reached name source state (count + 1)).join.2.2 =
      .error (.command failure output)) :
    Located (count + 1) "wait" (.command failure output)
  | ended {failure : Failure} {output : Output} (readable : source.failure = none)
    (finished : (engine.advance name source.lines state).ending = .finished source.lines.length)
    (joined : (engine.advance name source.lines state).state.join.2.2 =
      .error (.command failure output)) :
    Located source.lines.length "wait" (.command failure output)

end

section
variable {engine : Engine} {name : String} {source : Source} {state : State}

/-- Lines of a script that are not finished end at one of them, and those behind it make no
difference. -/
theorem advance_ends_at
    (early : ∀ lineno, (engine.advance name source.lines state).ending ≠ .finished lineno) :
    ∃ count raw, source.lines[count]? = some raw ∧
      (engine.advance name (source.lines.take count) state).ending = .finished count ∧
      engine.advance name source.lines state =
        engine.advance name (source.lines.take (count + 1)) state ∧
      (engine.advance name source.lines state).ending =
        (engine.step raw (engine.reached name source state count)).sequel.ending (count + 1) := by
  obtain ⟨count, raw, next, before, same⟩ := runLines_ends_at early
  rw [Nat.zero_add] at before same
  have whole : engine.advance name source.lines state =
      .after (engine.advance name (source.lines.take count) state).trace
        (engine.runLines name count [raw] (engine.reached name source state count)) := same
  refine ⟨count, raw, next, before, ?_, ?_⟩
  · rw [whole, advance_succ before next]
  · rw [whole]
    exact engine.ending_single name count raw _

/-- Lines behind one at which a script ends make no difference to it. -/
theorem execute_unread {count : Nat}
    (early : ∀ lineno,
      (engine.advance name (source.lines.take (count + 1)) state).ending ≠ .finished lineno)
    {other : Source} (front : other.lines.take (count + 1) = source.lines.take (count + 1)) :
    engine.execute name other state = engine.execute name source state := by
  have same : ∀ lineno,
      (engine.advance name (other.lines.take (count + 1)) state).ending ≠ .finished lineno := by
    rw [front]
    exact early
  rw [execute_of_early early, execute_of_early same, front]
  simp only [run_of_not_finished early name source.failure,
    run_of_not_finished early name other.failure]

theorem located_of_failed {lineno : Nat} {text : String} {cause : Fault}
    (failed : (engine.advance name source.lines state).ending = .failed lineno text cause) :
    engine.Located name source state lineno text cause := by
  obtain ⟨count, raw, next, before, same, ending⟩ :=
    @advance_ends_at engine name source state (by simp [failed])
  rw [failed] at ending
  cases sequel : (engine.step raw (engine.reached name source state count)).sequel with
  | fail line reason =>
    rw [sequel] at ending
    obtain ⟨rfl, rfl, rfl⟩ := Ending.failed.inj ending
    obtain rfl := step_fail_text sequel
    rw [same] at failed
    refine .line next before (failsAt_of_failed failed) ?_ ?_
    · exact fun other front => execute_unread (by simp [failed]) front
    · exact ⟨_, Ending.run_passive _ _ _ _, by rw [execute, same]; rfl⟩
  | _ =>
    rw [sequel] at ending
    cases ending

theorem located_of_stopped {lineno : Nat} {failure : Failure} {output : Output}
    (stopped : (engine.advance name source.lines state).ending = .stopped lineno)
    (joined : (engine.advance name source.lines state).state.join.2.2 =
      .error (.command failure output)) :
    engine.Located name source state lineno "wait" (.command failure output) := by
  obtain ⟨count, raw, next, before, same, ending⟩ :=
    @advance_ends_at engine name source state (by simp [stopped])
  rw [stopped] at ending
  cases sequel : (engine.step raw (engine.reached name source state count)).sequel with
  | stop =>
    rw [sequel] at ending
    obtain rfl := Ending.stopped.inj ending
    rw [same] at stopped joined
    exact .stopped next before (stopsAt_of_stopped stopped) joined
  | _ =>
    rw [sequel] at ending
    cases ending

/-- A script fails with a fault that names one of its lines only if that line has failed, or if no
line has and the wait at its end has. The fault tells which line that is, as it is written, and why
it failed. A failure that a script passes on, from its source or from a handle in the background, is
not its own. -/
theorem execute_locates {owner text : String} {lineno : Nat} {cause : Fault} (failed :
      (engine.execute name source state).result = .error (.execution owner lineno text cause)) :
    (source.failure = some (.execution owner lineno text cause) ∨
      ∃ handle, .collected handle (.error (.execution owner lineno text cause)) ∈
        (engine.execute name source state).trace) ∨
    owner = name ∧ engine.Located name source state lineno text cause ∧
      (Fault.execution owner lineno text cause).message =
        name ++ ":" ++ toString lineno ++ ": " ++ text ++ ": " ++ cause.message := by
  let progress := engine.advance name source.lines state
  have caught (fault : Fault) (escaped : progress.ending = .escaped fault) :
      fault.isScript = false := engine.isScript_of_escaped name 0 source.lines _ escaped
  obtain (unread | ⟨handle, passed⟩) | ⟨own, at_line | ⟨ending, said, failure, output, why, joined⟩⟩ :=
    Ending.run_located caught failed
  · exact .inl (.inl unread)
  · exact .inl (.inr ⟨handle, List.mem_append_right _ passed⟩)
  · exact .inr ⟨own, located_of_failed at_line, by rw [own]; rfl⟩
  · subst said why
    refine .inr ⟨own, ?_, by rw [own]; rfl⟩
    obtain ⟨finished, readable⟩ | stopped := ending
    · have all := engine.lineno_of_finished name 0 source.lines _ finished
      rw [Nat.zero_add] at all
      subst all
      exact .ended readable finished joined
    · exact located_of_stopped stopped joined

end

/-- A line that cannot be read is the third one behind a comment and a blank line, and it is named
without the blanks in front of it. -/
theorem execute_locates_unquoted :
    let engine : Engine := ⟨.empty, .empty⟩
    let state := State.start .empty "/" .empty
    let source := Source.ofLines ["# a\n", "\n", "  '\n", "b\n"]
    (engine.execute "s" source state).result =
        .error (.execution "s" 3 "'" (.parse .unterminatedQuote)) ∧
      engine.Located "s" source state 3 "'" (.parse .unterminatedQuote) ∧
      (Fault.execution "s" 3 "'" (.parse .unterminatedQuote)).message =
        "s:3: ': unterminated quoted argument" := by
  intro engine state source
  have failed : (engine.execute "s" source state).result =
      .error (.execution "s" 3 "'" (.parse .unterminatedQuote)) := rfl
  have happened : (engine.execute "s" source state).trace = [.logged (.comment "# a"),
      .logged (.note "unterminated quoted argument")] := rfl
  obtain (unread | ⟨handle, passed⟩) | ⟨_, located, message⟩ := execute_locates failed
  · cases unread
  · simp [happened] at passed
  · exact ⟨failed, located, message⟩

end Engine

end LineScript
