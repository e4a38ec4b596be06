import LineScript.Proofs.Background
import LineScript.Proofs.Journal

/-!
# The log says why a script failed
When a script fails, its log ends with the reason in brackets, and at most a note on the background
stands behind it. One failure is not logged: that of a line which is reached in a canceled scope
(`execute_explains`).
-/
namespace LineScript

/-! ## Logs that end with a reason -/

/-- A text that is nothing, or a note on what was left in the background. -/
def IsAftermath (text : String) : Prop :=
  text = "" ∨ ∃ message, text = "[background: " ++ message ++ "]\n"

/-- The log ends with the reason in brackets, a note on the background aside. -/
def Trace.Explains (trace : Trace) (cause : Fault) : Prop :=
  ∃ before after, trace.log = before ++ ("[" ++ cause.message ++ "]\n") ++ after ∧ IsAftermath after

namespace Trace

theorem log_of_entries {trace : Trace} {entries : List Entry} (shape : trace.entries = entries) :
    trace.log = String.join (entries.map Entry.text) := by rw [log, shape]

theorem explains_of_noted {first second : Trace} {cause : Fault} {before : List Entry}
    (noted : first.entries = before ++ [.note cause.message]) (after : IsAftermath second.log) :
    (first ++ second).Explains cause := by
  refine ⟨String.join (before.map Entry.text), second.log, ?_, after⟩
  rw [log_append, log_of_entries noted]
  simp [String.join_append, Entry.text]

end Trace

/-! ## Lines -/

/-- A step that fails has logged the reason. -/
theorem Step.ofEffect_failed {text other : String} {effect : Effect} {cause : Fault}
    (failed : (ofEffect text effect).sequel = .fail other cause) : ofEffect text effect =
      ⟨effect.1, effect.2.1 ++ [.logged (.note cause.message)], .fail text cause⟩ := by
  obtain ⟨state, trace, result⟩ := effect
  cases result with
  | ok => cases failed
  | error fault =>
    by_cases script : fault.isScript = true
    · rw [ofEffect_script script] at failed ⊢
      obtain ⟨_, rfl⟩ := Sequel.fail.inj failed
      rfl
    · simp only [ofEffect] at failed
      split at failed
      · rename_i ended
        cases ended
      · cases failed
      · rename_i ended
        cases ended
        rw [if_neg script] at failed
        cases failed

namespace Engine

/-- A line that fails in a scope that is not canceled logs the reason last. In a canceled scope
nothing happens at all. -/
theorem step_failed {engine : Engine} {raw text : String} {state : State} {cause : Fault}
    (failed : (engine.step raw state).sequel = .fail text cause) :
    (state.isCanceled = true → cause = .line .canceled ∧ (engine.step raw state).trace = []) ∧
      (state.isCanceled = false →
        ∃ before, (engine.step raw state).trace.entries = before ++ [.note cause.message]) := by
  obtain ⟨canceled, stepped⟩ |
    ⟨alive, ⟨_, stepped⟩ | ⟨fault, stepped⟩ | ⟨_, _, stepped⟩ | ⟨line, _, stepped⟩⟩ :=
    engine.step_shape raw state
  all_goals rw [stepped] at failed ⊢
  · obtain ⟨_, rfl⟩ := Sequel.fail.inj failed
    exact ⟨fun _ => ⟨rfl, rfl⟩, fun alive => by simp [canceled] at alive⟩
  · cases failed
  · obtain ⟨_, rfl⟩ := Sequel.fail.inj failed
    exact ⟨fun canceled => by simp [alive] at canceled, fun _ => ⟨[], rfl⟩⟩
  · cases failed
  · refine ⟨fun canceled => by simp [alive] at canceled, fun _ => ?_⟩
    rw [Step.ofEffect_failed failed]
    exact ⟨_, Trace.entries_append _ _⟩

/-- Lines that fail do so at one of them, after all lines before it are finished. -/
theorem runLines_failed {engine : Engine} {name : String} {count : Nat} {lines : List String}
    {state : State} {lineno : Nat} {text : String} {cause : Fault}
    (failed : (engine.runLines name count lines state).ending = .failed lineno text cause) :
    ∃ earlier raw later, lines = earlier ++ raw :: later ∧ lineno = count + earlier.length + 1 ∧
      let before := engine.runLines name count earlier state
      (engine.step raw before.state).sequel = .fail text cause ∧
        (engine.runLines name count lines state).trace =
          before.trace ++ (engine.step raw before.state).trace := by
  obtain ⟨index, raw, next, _, same⟩ := @runLines_ends_at engine name count lines state
    (by simp [failed])
  obtain ⟨inside, rfl⟩ := List.getElem?_eq_some_iff.mp next
  let before := engine.runLines name count (lines.take index) state
  have short : (lines.take index).length = index := List.length_take_of_le (Nat.le_of_lt inside)
  have ending : (engine.step lines[index] before.state).sequel.ending (count + index + 1) =
      .failed lineno text cause := by
    rw [← ending_single engine name, ← failed, same]
    rfl
  refine ⟨lines.take index, lines[index], lines.drop (index + 1), ?_, ?_⟩
  · rw [← List.drop_eq_getElem_cons inside, List.take_append_drop]
  · cases sequel : (engine.step lines[index] before.state).sequel with
    | fail line reason =>
      rw [sequel] at ending
      cases ending
      refine ⟨by rw [short], sequel, ?_⟩
      rw [same]
      exact congrArg (before.trace ++ ·) (trace_single engine name _ _ _)
    | _ =>
      rw [sequel] at ending
      cases ending

end Engine

/-! ## Ends of scripts -/

namespace State

/-- What a failed script has left behind makes for one note at most, and the fault stays what it is
unless a handle ends in one of its own. -/
theorem abandon_aftermath (state : State) (fault : Fault) :
    IsAftermath (state.abandon fault).trace.log ∧ ∀ other,
      (state.abandon fault).result = .error other → other = fault ∨
        ∃ handle, .collected handle (.error other) ∈ (state.abandon fault).trace := by
  have silent := Trace.log_of_entries state.entries_join
  have ends := state.abandons fault
  generalize state.abandon fault = run at ends ⊢
  cases ends with
  | idle =>
    refine ⟨.inl rfl, ?_⟩
    rintro _ ⟨⟩
    exact .inl rfl
  | ended =>
    refine ⟨.inl silent, ?_⟩
    rintro _ ⟨⟩
    exact .inl rfl
  | @failed failure output joined =>
    refine ⟨.inr ⟨failure.message, ?_⟩, ?_⟩
    · have noted : Trace.log [.logged (.note ("background: " ++ failure.message))] =
          "[background: " ++ failure.message ++ "]\n" := by
        simp [Trace.log, Trace.entries, Entry.text, ← String.append_assoc]
      rw [Trace.log_append, silent, noted]
      rfl
    · rintro _ ⟨⟩
      exact .inl rfl
  | broken joined foreign =>
    refine ⟨.inl silent, ?_⟩
    rintro _ ⟨⟩
    exact .inr (state.collected_of_join_error joined foreign)

theorem interrupt_failed {state : State} {reason fault : Fault}
    (failed : (state.interrupt reason).result = .error fault) :
    fault = reason ∨ ∃ handle, .collected handle (.error fault) ∈ (state.interrupt reason).trace := by
  rcases state.interrupt_cases reason with ⟨_, ended⟩ | ⟨_, ended⟩
  · rw [ended] at failed ⊢
    exact (state.abandon_aftermath reason).2 fault failed
  · rw [ended] at failed
    cases failed
    exact .inl rfl

/-- A last wait that fails logs the reason, unless a handle ends in a fault of its own. -/
theorem finish_explains {state : State} {name : String} {lineno : Nat} {fault : Fault}
    (failed : (state.finish name lineno).result = .error fault) :
    (∃ cause before, fault = .execution name lineno "wait" cause ∧
        (state.finish name lineno).trace.entries = before ++ [.note cause.message]) ∨
      ∃ handle, .collected handle (.error fault) ∈ (state.finish name lineno).trace := by
  have ends := state.finishes name lineno
  generalize state.finish name lineno = run at ends failed ⊢
  cases ends with
  | idle => cases failed
  | ended => cases failed
  | @failed failure output joined =>
    cases failed
    refine .inl ⟨_, state.join.2.1.entries ++ output.entries, rfl, ?_⟩
    rw [Trace.entries_append, Trace.entries_ofEntries, List.append_assoc]
    rfl
  | broken joined foreign =>
    cases failed
    exact .inr (state.collected_of_join_error joined foreign)

end State

/-- A script fails with what its source or a handle in the background ends in, or at a line, or in
its last wait, which logs the reason. -/
theorem Ending.run_failed {ending : Ending} {name : String} {failure : Option Fault} {state : State}
    {owner text : String} {lineno : Nat} {cause : Fault}
    (caught : ∀ fault, ending = .escaped fault → fault.isScript = false)
    (failed :
      (ending.run name failure state).result = .error (.execution owner lineno text cause)) :
    let run := ending.run name failure state
    (failure = some (.execution owner lineno text cause) ∨
      ∃ handle, .collected handle (.error (.execution owner lineno text cause)) ∈ run.trace) ∨
    owner = name ∧ (ending = .failed lineno text cause ∧ IsAftermath run.trace.log ∨
      (∀ lineno text cause, ending ≠ .failed lineno text cause) ∧
        ∃ before, run.trace.entries = before ++ [.note cause.message]) := by
  have waited (number : Nat)
      (last : (state.finish name number).result = .error (.execution owner lineno text cause)) :
      (∃ handle, .collected handle (.error (.execution owner lineno text cause)) ∈
        (state.finish name number).trace) ∨ owner = name ∧ ∃ before,
          (state.finish name number).trace.entries = before ++ [.note cause.message] := by
    obtain ⟨reason, before, same, noted⟩ | passed := State.finish_explains last
    · cases same
      exact .inr ⟨rfl, before, noted⟩
    · exact .inl passed
  cases ending with
  | finished number =>
    cases failure with
    | none => exact (waited number failed).imp .inr fun ⟨own, noted⟩ => ⟨own, .inr ⟨by simp, noted⟩⟩
    | some fault =>
      obtain rfl | passed := State.interrupt_failed failed
      · exact .inl (.inl rfl)
      · exact .inl (.inr passed)
  | stopped number =>
    exact (waited number failed).imp .inr fun ⟨own, noted⟩ => ⟨own, .inr ⟨by simp, noted⟩⟩
  | failed number line reason =>
    obtain ⟨after, own⟩ := state.abandon_aftermath (.execution name number line reason)
    obtain same | passed := own _ failed
    · cases same
      exact .inr ⟨rfl, .inl ⟨rfl, after⟩⟩
    · exact .inl (.inr passed)
  | escaped fault =>
    cases failed
    cases caught _ rfl

/-! ## Scripts -/

/-- The lines of a script end at one that is reached in a canceled scope. -/
def Engine.EndsCanceled (engine : Engine) (name : String) (lines : List String) (state : State) :
    Prop :=
  ∃ lineno text cause, (engine.advance name lines state).ending = .failed lineno text cause ∧
    (engine.advance name (lines.take (lineno - 1)) state).state.isCanceled = true

/-- Lines that fail have logged the reason last, but for a line that is reached in a canceled scope,
which logs nothing. -/
theorem Engine.advance_failed {engine : Engine} {name : String} {lines : List String}
    {state : State} {lineno : Nat} {text : String} {cause : Fault}
    (failed : (engine.advance name lines state).ending = .failed lineno text cause) :
    let before := engine.advance name (lines.take (lineno - 1)) state
    (before.state.isCanceled = true →
        cause = .line .canceled ∧ (engine.advance name lines state).trace = before.trace) ∧
      (before.state.isCanceled = false → ∃ earlier,
        (engine.advance name lines state).trace.entries = earlier ++ [.note cause.message]) := by
  obtain ⟨earlier, raw, later, rfl, number, failing, trace⟩ := runLines_failed failed
  have front : (earlier ++ raw :: later).take (lineno - 1) = earlier := by
    rw [number, Nat.zero_add, Nat.add_sub_cancel, List.take_left]
  obtain ⟨silent, noted⟩ := step_failed failing
  simp only [front]
  refine ⟨fun canceled => ?_, fun alive => ?_⟩
  · obtain ⟨reason, nothing⟩ := silent canceled
    refine ⟨reason, ?_⟩
    rw [advance, trace, nothing, List.append_nil]
    rfl
  · obtain ⟨entries, shape⟩ := noted alive
    refine ⟨(advance engine name earlier state).trace.entries ++ entries, ?_⟩
    rw [advance, trace, Trace.entries_append, shape, List.append_assoc]
    rfl

/-- Whenever a script fails, its log ends with the reason, except at a line that is reached in a
canceled scope: then nothing but what the lines before it have logged is there, a note on the
background aside. A failure that a script has not come to itself but passes on, from its source or
from a handle in the background, is not explained. -/
theorem Engine.execute_explains (engine : Engine) (name : String) (source : Source) (state : State)
    {owner text : String} {lineno : Nat} {cause : Fault} (failed :
      (engine.execute name source state).result = .error (.execution owner lineno text cause)) :
    let run := engine.execute name source state
    let before := engine.advance name (source.lines.take (lineno - 1)) state
    (source.failure = some (.execution owner lineno text cause) ∨
      ∃ handle, .collected handle (.error (.execution owner lineno text cause)) ∈ run.trace) ∨
    owner = name ∧
      (¬engine.EndsCanceled name source.lines state → run.trace.Explains cause) ∧
      (engine.EndsCanceled name source.lines state → cause = .line .canceled ∧
        ∃ after, run.trace.log = before.trace.log ++ after ∧ IsAftermath after) := by
  intro run before
  let progress := engine.advance name source.lines state
  let last := progress.ending.run name source.failure progress.state
  have trace : run.trace = progress.trace ++ last.trace := rfl
  have caught (fault : Fault) (escaped : progress.ending = .escaped fault) :
      fault.isScript = false := engine.isScript_of_escaped name 0 source.lines _ escaped
  rw [trace]
  obtain (unread | ⟨handle, passed⟩) | ⟨own, ⟨ended, aftermath⟩ | ⟨unfailed, earlier, noted⟩⟩ :=
    Ending.run_failed caught failed
  · exact .inl (.inl unread)
  · exact .inl (.inr ⟨handle, List.mem_append_right _ passed⟩)
  · right
    obtain ⟨silent, noted⟩ := Engine.advance_failed ended
    refine ⟨own, fun alive => ?_, ?_⟩
    · have going : before.state.isCanceled = false := by
        rw [Bool.eq_false_iff]
        exact fun canceled => alive ⟨lineno, text, cause, ended, canceled⟩
      obtain ⟨entries, shape⟩ := noted going
      exact Trace.explains_of_noted shape aftermath
    · rintro ⟨number, line, reason, same, canceled⟩
      cases ended.symm.trans same
      obtain ⟨reason, nothing⟩ := silent canceled
      exact ⟨reason, _, by rw [Trace.log_append]; exact congrArg (·.log ++ _) nothing, aftermath⟩
  · right
    refine ⟨own, fun _ => ?_, ?_⟩
    · have shape : (progress.trace ++ last.trace).entries =
          (progress.trace.entries ++ earlier) ++ [.note cause.message] := by
        rw [Trace.entries_append, noted, List.append_assoc]
      simpa using @Trace.explains_of_noted _ [] cause _ shape (.inl rfl)
    · rintro ⟨number, line, reason, ended, _⟩
      exact absurd ended (unfailed number line reason)

/-- A line that cannot be read fails with a command in the background that fails, too: the log ends
with both reasons. -/
theorem Engine.execute_explains_unread :
    let engine : Engine := ⟨.empty, .empty⟩
    let handle : Handle := .task fun scene => (scene, .error (.command (.worded "no") .empty))
    let begun := State.start .empty "/" .empty
    let state := begun.withPending ⟨"b &", handle, .success⟩
    let run := engine.execute "s" (.ofLines ["# a\n", "'\n"]) state
    run.result = .error (.execution "s" 2 "'" (.parse .unterminatedQuote)) ∧
      run.trace.Explains (.parse .unterminatedQuote) ∧
      run.trace.log = "# a\n[unterminated quoted argument]\n[background: b &: no]\n" := by
  intro engine handle begun state run
  have failed : run.result = .error (.execution "s" 2 "'" (.parse .unterminatedQuote)) := rfl
  have going : ¬engine.EndsCanceled "s" ["# a\n", "'\n"] state := by
    rintro ⟨lineno, text, cause, ended, canceled⟩
    obtain ⟨rfl, _, _⟩ := Ending.failed.inj ended
    cases canceled
  refine ⟨failed, ?_, rfl⟩
  obtain (unread | ⟨other, passed⟩) | ⟨_, explained, _⟩ := engine.execute_explains "s" _ state failed
  · cases unread
  · have happened : run.trace = [.logged (.comment "# a"),
        .logged (.note "unterminated quoted argument"),
        .collected handle (.error (.command (.worded "no") .empty)),
        .logged (.note "background: b &: no")] := rfl
    rw [show (engine.execute "s" (.ofLines ["# a\n", "'\n"]) state).trace = _ from happened] at passed
    simp at passed
  · exact explained going

/-- In a scope that is canceled a script fails without a word in the log. -/
theorem Engine.execute_explains_not_canceled :
    let engine : Engine := ⟨.empty, .empty⟩
    let begun := State.start .empty "/" .empty
    let state : State := { begun with scopes := begun.scopes.cancel 1 }
    let run := engine.execute "s" (.ofLines ["emit a b\n"]) state
    run.result = .error (.execution "s" 1 "emit a b" (.line .canceled)) ∧
      ¬run.trace.Explains (.line .canceled) := by
  intro engine begun state run
  refine ⟨rfl, ?_⟩
  rintro ⟨before, after, shape, _⟩
  have empty : run.trace.log = "" := rfl
  have length := congrArg String.length (empty.symm.trans shape)
  have bracket : "[".length = 1 := rfl
  simp only [String.length_append, String.length_empty] at length
  omega

end LineScript
