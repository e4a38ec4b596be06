import LineScript.Proofs.Composition
import LineScript.Proofs.Gating

/-!
# Lines that run nothing
A blank line, a comment, or a line that is skipped can be put into a script, or taken out of it,
without any difference to what the script does. Only the log shows it, and the lines behind it have
higher numbers (`execute_insert`).
-/
namespace LineScript.Engine
open Trace

/-- The line runs nothing in the state, and writes no more than these entries: it is blank, or a
comment, or one of its guards does not hold and those in front of it can be evaluated. -/
inductive Idle (engine : Engine) (state : State) (raw : String) : List Entry → Prop where
  | blank (empty : Text.strip raw = "") : Idle engine state raw []
  | comment (marked : Script.isComment (Text.strip raw) = true) :
    Idle engine state raw [.comment (Text.strip raw)]
  | skipped {line : Script.Line} {front back : List Script.Guard} {guard : Script.Guard}
    (read : Script.Line.parse (Text.stripLineEnd raw) state.env.expand = .ok (some line))
    (shape : line.guards = front ++ guard :: back)
    (evaluated : ∀ other ∈ front, ∃ value, engine.Evaluates state.toScene other value)
    (bars : engine.Bars state.toScene guard) :
    Idle engine state raw [.echo line.raw, .skipped]

section
variable {engine : Engine} {state : State} {raw : String} {entries : List Entry}

/-- A line runs nothing if all its guards can be evaluated and not all of them hold. -/
theorem Idle.of_guards {line : Script.Line}
    (read : Script.Line.parse (Text.stripLineEnd raw) state.env.expand = .ok (some line))
    (evaluated : ∀ guard ∈ line.guards, ∃ value, engine.Evaluates state.toScene guard value)
    (blocked : ¬∀ guard ∈ line.guards, engine.Passes state.toScene guard) :
    engine.Idle state raw [.echo line.raw, .skipped] := by
  obtain passes | ⟨front, guard, back, shape, _, stops⟩ :=
    engine.guards_split state.toScene line.guards
  · exact absurd passes blocked
  have before : ∀ other ∈ front, ∃ value, engine.Evaluates state.toScene other value := by
    intro other member
    exact evaluated other (by simp [shape, member])
  obtain bars | ⟨fault, errs⟩ := stops
  · exact .skipped read shape before bars
  · obtain ⟨value, known⟩ := evaluated guard (by simp [shape])
    exact absurd known (errs.not_evaluates value)

theorem Idle.step (idle : engine.Idle state raw entries) (alive : state.isCanceled = false) :
    ∃ happening : Trace, happening.Quiet ∧ happening.entries = entries ∧
      engine.step raw state = ⟨state, happening, .next⟩ := by
  cases idle with
  | blank empty =>
    refine ⟨[], quiet_nil, rfl, ?_⟩
    have silent : Script.isComment "" = false := by decide
    simp [Engine.step, alive, Text.strip_stripLineEnd, empty, silent, Script.Line.parse]
  | comment marked =>
    refine ⟨[.logged (.comment (Text.strip raw))], quiet_ofEntries [_], rfl, ?_⟩
    simp [Engine.step, alive, Text.strip_stripLineEnd, marked]
  | skipped read shape evaluated bars =>
    obtain ⟨happening, quiet, written, ran⟩ := runLine_skipped shape evaluated bars
    refine ⟨happening, quiet, written, ?_⟩
    rw [step_parsed alive read, ran]
    rfl

end

/-- A line that runs nothing, put into a script where the script comes to, makes no difference to
it. The script does the same before and after it and leaves the same state, the log has its entries
in between, and a fault that names a line names it by the next higher number. -/
theorem execute_insert {engine : Engine} {name raw : String} {before : List String} {after : Source}
    {state : State} {entries : List Entry}
    (finished : (engine.advance name before state).ending = .finished before.length)
    (alive : (engine.advance name before state).state.isCanceled = false)
    (idle : engine.Idle (engine.advance name before state).state raw entries) :
    let reached := engine.advance name before state
    let plain := engine.execute name ⟨before ++ after.lines, after.failure⟩ state
    let wider := engine.execute name ⟨before ++ raw :: after.lines, after.failure⟩ state
    wider.trace.calls = plain.trace.calls ∧ plain.state.SameButNotes wider.state ∧
      EndsLater 1 name after plain.trace plain.result wider.result ∧
      ∃ happening rest : Trace, happening.Quiet ∧ plain.trace = reached.trace ++ rest ∧
        wider.trace = reached.trace ++ (happening ++ rest) ∧
        plain.trace.log = reached.trace.log ++ rest.log ∧
        wider.trace.log =
          reached.trace.log ++ (String.join (entries.map Entry.text) ++ rest.log) := by
  intro reached plain wider
  obtain ⟨happening, quiet, written, stepped⟩ := idle.step alive
  -- Both runs go on behind the insertion with the same lines in the same state; only the number of
  -- lines before them differs.
  let early := engine.runLines name (0 + before.length) after.lines reached.state
  let late := engine.runLines name (0 + before.length + 1) after.lines reached.state
  let earlier := Run.after early.trace (early.ending.run name after.failure early.state)
  let later := Run.after late.trace (late.ending.run name after.failure late.state)
  have without : plain = .after reached.trace earlier := execute_append_of_finished after finished
  have inserted : wider = .after reached.trace (.after happening later) := by
    have row := execute_append_of_finished ⟨raw :: after.lines, after.failure⟩ finished
    refine row.trans ?_
    simp only [runLines, stepped, Progress.after, Run.after, List.append_assoc]
    rfl
  obtain ⟨happened, same, ends⟩ :=
    engine.runs_later name after (0 + before.length) 1 reached.state
  have whole : wider.trace = reached.trace ++ (happening ++ earlier.trace) := by
    rw [inserted, ← happened]
    rfl
  have shown : happening.log = String.join (entries.map Entry.text) := by
    rw [Trace.log, written]
  rw [without]
  refine ⟨?_, ?_, ?_, happening, earlier.trace, quiet, rfl, whole, ?_, ?_⟩
  · show wider.trace.calls = Trace.calls (reached.trace ++ earlier.trace)
    rw [whole, calls_append, calls_append, calls_append, quiet.calls, List.nil_append]
  · rw [inserted]
    exact same
  · rw [inserted]
    refine ends.mono fun event member => List.mem_append_right _ member
  · exact log_append _ _
  · rw [whole, log_append, log_append, shown]

/-- A line whose guard does not hold, put in front of a line that cannot be read, makes that the
third line. -/
theorem execute_insert_skipped :
    let engine : Engine := ⟨.empty, ⟨[("never", Builtin.plain "never holds" fun _ => false)]⟩⟩
    let state := State.start .empty "/" .empty
    let plain := engine.execute "s" (.ofLines ["# a\n", "'\n"]) state
    let wider := engine.execute "s" (.ofLines ["# a\n", "[never] rest\n", "'\n"]) state
    plain.result = .error (.execution "s" 2 "'" (.parse .unterminatedQuote)) ∧
      wider.result = .error (.execution "s" 3 "'" (.parse .unterminatedQuote)) ∧
      plain.trace.log = "# a\n[unterminated quoted argument]\n" ∧
      wider.trace.log =
        "# a\n> [never] rest\n[condition not met]\n[unterminated quoted argument]\n" := by
  intro engine state plain wider
  let reached := (engine.advance "s" ["# a\n"] state).state
  let line : Script.Line :=
    ⟨"[never] rest", "rest", [], [⟨"never", "", false, false⟩], .success, false⟩
  have words : Script.rawWords "[never] rest" =
      .ok [[.plain "[never]".toList], [.plain "rest".toList]] := rfl
  have stripped : Text.stripLineEnd "[never] rest\n" = "[never] rest" := rfl
  have read : Script.Line.parse (Text.stripLineEnd "[never] rest\n") reached.env.expand =
      .ok (some line) := by
    rw [stripped]
    exact @Script.Line.parse_plain _ _ _ "never] res".toList rfl rfl rfl (by decide) _ words
      (by simp) _ rfl reached.env
  have value : engine.Evaluates reached.toScene ⟨"never", "", false, false⟩ false :=
    ⟨_, ⟨rfl, rfl⟩, rfl⟩
  have idle : engine.Idle reached "[never] rest\n" [.echo "[never] rest", .skipped] := by
    refine Idle.of_guards read ?_ ?_
    · intro guard member
      obtain rfl := List.mem_singleton.mp member
      exact ⟨false, value⟩
    · intro passes
      obtain ⟨other, again, differs⟩ := passes _ (List.mem_singleton.mpr rfl)
      exact differs (again.unique value)
  obtain ⟨_, _, later, _, rest, _, _, _, log, wide⟩ :=
    @execute_insert engine "s" "[never] rest\n" ["# a\n"] (.ofLines ["'\n"]) state _ rfl rfl idle
  have failed : plain.result = .error (.execution "s" 2 "'" (.parse .unterminatedQuote)) := rfl
  have noted : plain.trace.log = "# a\n" ++ "[unterminated quoted argument]\n" := rfl
  have happened : plain.trace = [.logged (.comment "# a"),
      .logged (.note "unterminated quoted argument")] := rfl
  have ends : EndsLater 1 "s" (.ofLines ["'\n"]) plain.trace plain.result wider.result := later
  have moved : wider.result = .error (.execution "s" 3 "'" (.parse .unterminatedQuote)) := by
    rw [failed, happened] at ends
    generalize wider.result = result at ends
    cases ends with
    | located => rfl
    | foreign fault outside =>
      obtain unread | foreign | ⟨_, handle, collected⟩ := outside
      · cases unread
      · cases foreign
      · simp at collected
  have behind : rest.log = "[unterminated quoted argument]\n" :=
    (String.append_right_inj "# a\n").mp (log.symm.trans noted)
  rw [behind] at wide
  exact ⟨failed, moved, noted, wide⟩

end LineScript.Engine
