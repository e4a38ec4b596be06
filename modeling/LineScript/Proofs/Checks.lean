import LineScript.Proofs.Containment
import LineScript.Proofs.Outcomes

/-!
# Lines that check
The commands that search and the one that looks for files say nothing: they are done, or they raise
a fault without output. So a line that checks something adds nothing to what was written. But a
check that fails where its line allows it has its empty output recorded, like every command that
fails, and then the last output is lost for the checks behind it (`runLines_checks`).
-/
namespace LineScript

/-! ## Replies of checks -/

def Builtin.checks : List String := ["stdout", "stderr", "grep", "exists"]

namespace Builtin

/-- This is done, or it ends in a fault without output. -/
def Mute (result : Except Fault Reply) : Prop := Ends (·.output = .empty) (· = .done) result

private theorem mute_resolve (scene : Scene) (path : String) :
    Ends (·.output = .empty) (fun _ => True) (scene.resolve path) := by
  have expanded : Ends (·.output = .empty) (fun _ => True) (scene.machine.expandHome path) := by
    cases found : scene.machine.expandHome path with
    | ok expanded => trivial
    | error fault =>
      obtain ⟨rfl, _⟩ := Machine.expandHome_error found
      rfl
  exact expanded.bind fun _ _ => trivial

private theorem mute_readText (scene : Scene) (name : String) :
    Ends (·.output = .empty) (fun _ => True) (readText scene name) := by
  refine (mute_resolve scene name).bind fun path _ => ?_
  split
  · rfl
  · split
    · trivial
    · rfl

theorem mute_search (machine : Machine) {content : List String → Except Fault (String × String)}
    (found : ∀ rest, Ends (·.output = .empty) (fun _ => True) (content rest))
    (args : List String) : Mute (search machine content args) := by
  unfold search
  split
  · rfl
  · rfl
  · split
    · rename_i problem _
      cases problem <;> rfl
    · refine (found _).bind fun (text, name) _ => ?_
      simp only
      split
      · rfl
      · rfl

theorem mute_grep (args : List String) (state : State) : Mute (grep args state) := by
  refine mute_search _ (fun rest => ?_) args
  split
  · exact (mute_readText _ _).bind fun _ _ => trivial
  · rfl

theorem mute_searchLast (machine : Machine) (text name : String) (args : List String) :
    Mute (searchLast machine text name args) := by
  refine mute_search _ (fun rest => ?_) args
  split
  · trivial
  · rfl

theorem mute_exists (args : List String) (state : State) : Mute (exists? args state) := by
  have check (demands : Demands) (name : String) :
      Ends (·.output = .empty) (fun _ => True) (checkFile state.toScene demands name) := by
    refine (mute_resolve _ _).bind fun path _ => ?_
    simp only
    split
    · rfl
    · split
      · rfl
      · split
        · rfl
        · trivial
  unfold exists?
  simp only
  split
  · rfl
  · exact (ends_forM fun name _ => check _ name).bind fun _ _ => rfl

/-- A command that only looks leaves the state as it is. -/
theorem perform_looking (usage : CommandUsage)
    (look : List String → State → Except Fault Reply) (args : List String) (state : State) :
    (looking usage look).perform args state = (replyOf (look args state)).settle state := rfl

/-- A reply that says nothing: no handle, and no output. -/
def Mute.Said : Reply → Prop
  | .done => True
  | .handle _ => False
  | .fault fault => fault.output = .empty

/-- A check leaves the state as it is, and has nothing to say. -/
theorem mute_checks {name : String} (check : name ∈ checks) {command : Command}
    (found : commands.find? name = some command) (args : List String) (state : State) :
    (command.run args state).1 = state ∧ Mute.Said (command.run args state).2 := by
  have looks {usage : CommandUsage} {look : List String → State → Except Fault Reply}
      (mute : Mute (look args state)) (same : looking usage look = command) :
      (command.run args state).1 = state ∧ Mute.Said (command.run args state).2 := by
    subst same
    refine ⟨rfl, ?_⟩
    simp only [Command.run, looking]
    cases looked : look args state with
    | ok reply =>
      rw [looked] at mute
      obtain rfl : reply = .done := mute
      trivial
    | error fault =>
      rw [looked] at mute
      exact mute
  simp only [checks, List.mem_cons, List.not_mem_nil, or_false] at check
  rcases check with rfl | rfl | rfl | rfl
  · exact looks (mute_searchLast _ _ _ args) (Option.some.inj found)
  · exact looks (mute_searchLast _ _ _ args) (Option.some.inj found)
  · exact looks (mute_grep args state) (Option.some.inj found)
  · exact looks (mute_exists args state) (Option.some.inj found)

end Builtin

/-! ## Lines that check -/

/-- The engine has these commands as every engine has them. -/
def Engine.Knows (engine : Engine) (names : List String) : Prop :=
  ∀ name ∈ names, engine.commands.find? name = Builtin.commands.find? name

theorem Engine.Knows.runLine {engine : Engine} {names : List String} (knows : engine.Knows names)
    {name : String} (known : name ∈ names) {command : Command}
    (found : Builtin.commands.find? name = some command) (raw : String) (args : List String)
    (want : Script.Expect) (state : State) :
    ∃ trace, engine.runLine ⟨raw, name, args, [], want, false⟩ state =
      ((command.perform args state).1.recordAny (command.perform args state).2.recorded, trace,
        want.ending (command.perform args state).2) := by
  have own : engine.commands.find? name = some command := (knows name known).trans found
  exact runLine_upshot rfl rfl own

/-- If a line is read from the text it runs a check in the foreground. -/
def Script.IsCheck (env : Environment) (raw : String) : Prop :=
  ∀ line, Line.parse (Text.stripLineEnd raw) env.expand = .ok (some line) →
    line.name ∈ Builtin.checks ∧ line.background = false

/-- A line called a command that failed, which the line allows. -/
def Trace.Misses (trace : Trace) : Prop :=
  ∃ line fault, .called line (.fault fault) ∈ trace ∧ line.want ≠ .success

/-- The state with nothing as its last output. -/
def State.forget (state : State) : State := { state with last := .empty }

/-- The ways in which checks can leave a state: as it is, if none has failed; otherwise without its
last output. -/
inductive Checked (state : State) : Trace → State → Prop where
  | held {trace : Trace} (held : ¬trace.Misses) : Checked state trace state
  | missed {trace : Trace} (missed : trace.Misses) : Checked state trace state.forget

namespace Trace

theorem misses_append (first second : Trace) :
    (first ++ second).Misses ↔ first.Misses ∨ second.Misses := by
  simp only [Misses, List.mem_append, or_and_right, exists_or]

theorem Quiet.not_misses {trace : Trace} (quiet : trace.Quiet) : ¬trace.Misses := by
  rintro ⟨line, fault, member, _⟩
  exact quiet _ member

end Trace

theorem State.record_empty (state : State) : state.record .empty = state.forget := by
  simp [record, Scene.record, forget, Output.append_empty]

theorem Checked.env {state after : State} {trace : Trace} (checked : Checked state trace after) :
    after.env = state.env := by
  cases checked <;> rfl

theorem Checked.trans {state between after : State} {first second : Trace}
    (early : Checked state first between) (late : Checked between second after) :
    Checked state (first ++ second) after := by
  cases early with
  | held before =>
    cases late with
    | held behind => exact .held (by simp [Trace.misses_append, before, behind])
    | missed behind => exact .missed ((Trace.misses_append _ _).mpr (.inr behind))
  | missed before =>
    have misses := (Trace.misses_append first second).mpr (.inl before)
    cases late with
    | held => exact .missed misses
    | missed => exact .missed misses

theorem Upshot.recorded_of_mute {fault : Fault} (mute : fault.output = .empty)
    (fails : Upshot.Fails (.error fault)) : Upshot.recorded (.error fault) = some .empty := by
  obtain ⟨_, reason, output, ⟨⟩, failed⟩ := fails
  cases fault with
  | command other said => exact congrArg some mute
  | system => rfl
  | _ => cases failed

namespace Engine

variable {engine : Engine}

/-- A line with a check that goes on has only called the check. -/
private theorem handleReply_check {line : Script.Line} (foreground : line.background = false)
    (state : State) {reply : Reply} (mute : Builtin.Mute.Said reply)
    (goes : (handleReply line state reply).2.2 = .ok ()) :
    Checked state (.called line reply :: (handleReply line state reply).2.1)
      (handleReply line state reply).1 := by
  have silent := @handleReply_quiet line state reply (by rintro handle rfl; exact mute)
  obtain ⟨trace, replied⟩ := handleReply_upshot foreground state reply
  rw [replied] at silent goes ⊢
  have quiet : trace.Quiet := silent
  have ended : line.want.ending (reply.settle state).2 = .ok () := goes
  cases reply with
  | handle handle => cases mute
  | done =>
    refine .held ?_
    rintro ⟨other, fault, member, allowed⟩
    rcases List.mem_cons.mp member with same | late
    · cases same
    · exact quiet.not_misses ⟨other, fault, late, allowed⟩
  | fault fault =>
    obtain ⟨⟨_, ⟨⟩⟩, _⟩ | ⟨fails, allowed⟩ := (line.want.ending_eq_ok _).mp ended
    simp only [Reply.settle, Upshot.recorded_of_mute mute fails, State.recordAny,
      State.record_empty]
    exact .missed ⟨line, fault, by simp, allowed⟩

private theorem ofEffect_next {text : String} {effect : Effect}
    (goes : (Step.ofEffect text effect).sequel = .next) :
    effect.2.2 = .ok () ∧ Step.ofEffect text effect = ⟨effect.1, effect.2.1, .next⟩ := by
  obtain ⟨state, trace, fault | _⟩ := effect
  · exfalso
    cases fault <;> cases goes
  · exact ⟨rfl, rfl⟩

theorem step_check (knows : engine.Knows Builtin.checks) {raw : String} {state : State}
    (check : Script.IsCheck state.env raw) (goes : (engine.step raw state).sequel = .next) :
    Checked state (engine.step raw state).trace (engine.step raw state).state := by
  have quiet (entry : Entry) : ¬Trace.Misses [.logged entry] := by simp [Trace.Misses]
  obtain ⟨_, stepped⟩ | ⟨_, ⟨_, stepped⟩ | ⟨fault, stepped⟩ | ⟨_, _, stepped⟩ |
    ⟨line, read, stepped⟩⟩ := engine.step_shape raw state
  · simp [stepped] at goes
  · rw [stepped]
    exact .held (quiet _)
  · simp [stepped] at goes
  · rw [stepped]
    exact .held (by simp [Trace.Misses])
  rw [stepped] at goes ⊢
  obtain ⟨well, made⟩ := ofEffect_next goes
  rw [made]
  obtain ⟨tests, ⟨fault, _, ran⟩ | ran | ⟨command, after, reply, found, replied, ran⟩⟩ :=
    engine.runLine_shape line state
  · rw [ran] at well
    cases well
  · rw [ran]
    exact .held (by simp [Trace.Misses])
  · obtain ⟨named, foreground⟩ := check line read
    rw [knows _ named] at found
    obtain ⟨same, mute⟩ := Builtin.mute_checks named found line.args state
    rw [replied] at same mute
    subst same
    rw [ran] at well ⊢
    have front : Checked after (.logged (.echo line.raw) :: tests.map .tested) after :=
      .held (by simp [Trace.Misses])
    simpa [Effect.after] using front.trans (handleReply_check foreground after mute well)

/-- Lines with checks leave the state as it is, but for the last output if one of them fails. -/
theorem runLines_checked (knows : engine.Knows Builtin.checks) (name : String) (count : Nat)
    {lines : List String} {state : State} (checks : ∀ raw ∈ lines, Script.IsCheck state.env raw)
    {lineno : Nat} (finished : (engine.runLines name count lines state).ending = .finished lineno) :
    Checked state (engine.runLines name count lines state).trace
      (engine.runLines name count lines state).state := by
  induction lines generalizing count state with
  | nil => exact .held (by simp [runLines, Trace.Misses])
  | cons raw rest ih =>
    rw [List.forall_mem_cons] at checks
    rw [runLines] at finished ⊢
    cases goes : (engine.step raw state).sequel with
    | next =>
      simp only [goes, Progress.after] at finished ⊢
      have first := step_check knows checks.1 goes
      rw [← first.env] at checks
      exact first.trans (ih (count + 1) checks.2 finished)
    | stop => simp [goes] at finished
    | fail text cause => simp [goes] at finished
    | escape fault => simp [goes] at finished

/-- Checks that a script goes on behind add nothing to what was written. The last output is still
the same behind them if none of them has failed; if one has, where its line allowed it, nothing is
left of the last output. -/
theorem runLines_checks (knows : engine.Knows Builtin.checks) (name : String) (count : Nat)
    {lines : List String} {state : State} (checks : ∀ raw ∈ lines, Script.IsCheck state.env raw)
    {lineno : Nat} (finished : (engine.runLines name count lines state).ending = .finished lineno) :
    let progress := engine.runLines name count lines state
    progress.state.written = state.written ∧
      (progress.state.last = state.last ↔ ¬progress.trace.Misses ∨ state.last = .empty) ∧
      (progress.trace.Misses → progress.state = state.forget) ∧
      (¬progress.trace.Misses → progress.state = state) := by
  intro progress
  have checked : Checked state progress.trace progress.state :=
    runLines_checked knows name count checks finished
  generalize progress.trace = trace, progress.state = after at checked
  cases checked with
  | held held => simp [held]
  | missed missed => simp [missed, State.forget, eq_comm]

/-- A check that holds leaves the last output to the checks behind it. -/
theorem runLines_checks_exists :
    let state := (State.start .empty "/" .empty).record ⟨"a\n", ""⟩
    let progress := standard.runLines "s" 0 ["exists /\n"] state
    standard.Knows Builtin.checks ∧
      (∀ raw ∈ ["exists /\n"], Script.IsCheck state.env raw) ∧
      progress.ending = .finished 1 ∧ progress.state = state := by
  intro state progress
  have words : Script.rawWords "exists /" = .ok [[.plain "exists".toList], [.plain "/".toList]] :=
    rfl
  have read : Script.Line.parse "exists /" state.env.expand =
      .ok (some ⟨"exists /", "exists", ["/"], [], .success, false⟩) :=
    @Script.Line.parse_plain _ _ _ "xists ".toList rfl rfl rfl (by decide) _ words (by simp) _ rfl
      state.env
  have found : state.machine.store.lstat? "/" = some .directory :=
    Files.Store.lstat?_of_resolve (by decide) (Files.Store.resolve_root _ false)
  have resolved : state.resolve "/" = .ok "/" :=
    @Scene.resolve_untilded state.toScene "/" "/" rfl rfl
  have looked : Builtin.exists? ["/"] state = .ok .done := by
    rw [Builtin.exists?]
    simp [Builtin.takeDemands, Builtin.checkFile, resolved, found, bind, Except.bind, pure,
      Except.pure]
  obtain ⟨trace, stepped⟩ := @step_upshot standard "exists /\n" state _ _ rfl read rfl rfl rfl
  rw [Builtin.perform_looking, looked] at stepped
  obtain ⟨ending, notes, same⟩ := runLines_single "s" 0 stepped
  have knows : standard.Knows Builtin.checks := fun _ _ => rfl
  have checks : ∀ raw ∈ ["exists /\n"], Script.IsCheck state.env raw := by
    rintro raw member line reads
    obtain rfl := List.mem_singleton.mp member
    cases read.symm.trans reads
    exact ⟨by decide, rfl⟩
  obtain ⟨_, last, _, held⟩ := runLines_checks knows "s" 0 checks ending
  have hit : ¬progress.trace.Misses := (last.mp (by rw [same]; rfl)).resolve_right (by decide)
  exact ⟨knows, checks, ending, held hit⟩

/-- A check that fails where its line wants it to leaves nothing of the last output. -/
theorem runLines_forgets :
    let state := (State.start .empty "/" .empty).record ⟨"a\n", ""⟩
    let progress := standard.runLines "s" 0 ["! exists b\n"] state
    Script.IsCheck state.env "! exists b\n" ∧ progress.ending = .finished 1 ∧
      state.last = ⟨"a\n", ""⟩ ∧ progress.state.last = ⟨"", ""⟩ := by
  intro state progress
  have words : Script.rawWords "! exists b" = .ok [[.plain "!".toList],
      [.plain "exists".toList], [.plain "b".toList]] := rfl
  have read : Script.Line.parse "! exists b" state.env.expand =
      .ok (some ⟨"! exists b", "exists", ["b"], [], .failure, false⟩) :=
    @Script.Line.parse_plain _ _ _ " exists ".toList rfl rfl rfl (by decide) _ words (by simp) _ rfl
      state.env
  have missing : state.machine.store.lstat? "/b" = none :=
    Files.Store.lstat?_of_resolve (by decide)
      (@Files.Store.resolve_single state.machine.store false "/b" "b" [] none (by decide) rfl rfl
        (by decide) rfl (by simp))
  have resolved : state.resolve "b" = .ok "/b" :=
    @Scene.resolve_untilded state.toScene "/" "b" rfl rfl
  have looked : Builtin.exists? ["b"] state = .error (.failure (.doesNotExist "b")) := by
    rw [Builtin.exists?]
    simp [Builtin.takeDemands, Builtin.checkFile, resolved, missing, bind, Except.bind, throw,
      throwThe, MonadExceptOf.throw]
  obtain ⟨trace, stepped⟩ := @step_upshot standard "! exists b\n" state _ _ rfl read rfl rfl rfl
  rw [Builtin.perform_looking, looked] at stepped
  obtain ⟨ending, notes, same⟩ := runLines_single "s" 0 stepped
  refine ⟨?_, ending, rfl, ?_⟩
  · intro line reads
    cases read.symm.trans reads
    exact ⟨by decide, rfl⟩
  · rw [same]
    rfl

end Engine

end LineScript
