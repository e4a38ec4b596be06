import LineScript.Proofs.Appending
import LineScript.Proofs.Reports

/-!
# Scripts that are accounted for
Whatever is raised among commands that keep to their part (`Command.Fair`) is expected, so no script
of theirs loses a handle or output (`execute_collects`). The commands that every engine knows are
modest, but they do not keep to their part: a NUL makes them raise other faults, and so do the
problems of patterns that are more than defects. A script that meets neither loses nothing either
(`runScript_accounted`).
-/
namespace LineScript

/-! ## Commands that keep to their part -/

/-- A handle that writes nothing down itself, and ends in output or in a failure of its command. A
wait for the background does, as it is made of such handles. -/
def Handle.Fair : Handle → Prop
  | .task run => ∀ scene, (run scene).1.written = scene.written ∧
      ∀ fault, (run scene).2 = .error fault → ∃ failure output, fault = .command failure output
  | .join => True

/-- A command that leaves the background and what was written alone, raises only faults of scripts,
stops and refusals of the system, and replies with handles of this kind. -/
structure Command.Fair (command : Command) : Prop where
  background : ∀ args state, (command.run args state).1.background = state.background
  written : ∀ args state, (command.run args state).1.written = state.written
  faults : ∀ args state fault, (command.run args state).2 = .fault fault →
    fault.isScript = true ∨ (∃ message, fault = .stop message) ∨ ∃ refusal, fault = .system refusal
  handles : ∀ args state handle, (command.run args state).2 = .handle handle → handle.Fair

/-- An engine whose commands all keep to their part. -/
def Engine.Fair (engine : Engine) : Prop :=
  ∀ name command, engine.commands.find? name = some command → command.Fair

theorem Engine.fair_of_entries {engine : Engine}
    (fair : ∀ entry ∈ engine.commands.entries, entry.2.Fair) : engine.Fair := by
  intro name command found
  exact fair (name, command) (Table.mem_of_find? found)

theorem Handle.Fair.modest {handle : Handle} (fair : handle.Fair) : handle.Modest := by
  cases handle with
  | task run => exact fun scene => (fair scene).1
  | join => trivial

theorem Handle.Fair.told {handle : Handle} (fair : handle.Fair) (scene : Scene) :
    Told (handle.await scene).2 := by
  cases handle with
  | task run => exact (fair scene).2
  | join => rintro _ ⟨⟩

namespace Engine.Fair

variable {engine : Engine} (fair : engine.Fair)
include fair

theorem modest : engine.Modest := fun name command found =>
  ⟨(fair name command found).background, (fair name command found).written,
    fun args state handle replied =>
      ((fair name command found).handles args state handle replied).modest⟩

theorem hands : engine.Hands Handle.Fair := fun name command found =>
  (fair.modest name command found).hands (fair name command found).handles

/-- What a command raises at once is caught. -/
theorem caught {line : Script.Line} {command : Command} {state after : State} {fault : Fault}
    (found : engine.commands.find? line.name = some command)
    (replied : command.run line.args state = (after, .fault fault)) : fault.isCaught = true := by
  obtain script | ⟨message, rfl⟩ | ⟨refusal, rfl⟩ :=
    (fair _ _ found).faults line.args state fault (congrArg Prod.snd replied)
  · cases fault <;> first | rfl | exact script
  · rfl
  · rfl

end Engine.Fair

/-! ## What is expected -/

namespace Trace

theorem tame_nil : Tame [] := by simp [Tame]

theorem Quiet.tame {trace : Trace} (quiet : trace.Quiet) : trace.Tame := by
  intro event member
  have still := quiet event member
  cases event with
  | logged | tested => trivial
  | called | awaited | collected => cases still

end Trace

theorem awaitAll_tame (pending : List Pending) (scene : Scene)
    (fair : ∀ one ∈ pending, one.handle.Fair) : (awaitAll pending scene).2.1.Tame := by
  induction pending generalizing scene with
  | nil => exact Trace.tame_nil
  | cons first rest ih =>
    have told := (fair first (by simp)).told scene
    obtain ⟨outcome, known, _⟩ := told.outcome
    rw [awaitAll_of_ok known]
    exact Trace.tame_cons.mpr
      ⟨told, ih _ fun one member => fair one (List.mem_cons_of_mem _ member)⟩

theorem Engine.Moves.tame {engine : Engine} (fair : engine.Fair) {state after : State}
    {trace : Trace} (moves : engine.Moves state trace after) (holds : state.Holds Handle.Fair) :
    trace.Tame := by
  induction moves with
  | quiet _ quiet => exact quiet.tame
  | attach | note | record => exact Trace.tame_nil
  | @call _ _ _ _ reply found replied plain =>
    refine Trace.tame_cons.mpr ⟨?_, Trace.tame_nil⟩
    cases reply with
    | done => trivial
    | fault fault => exact fair.caught found replied
    | handle handle => exact absurd rfl (plain handle)
  | send => exact Trace.tame_cons.mpr ⟨trivial, Trace.tame_nil⟩
  | await found replied _ =>
    have own := (fair.hands.run found replied holds).2 _ rfl
    exact Trace.tame_cons.mpr ⟨trivial, Trace.tame_cons.mpr ⟨own.told _, Trace.tame_nil⟩⟩
  | wait =>
    exact Trace.tame_cons.mpr ⟨trivial, Trace.tame_cons.mpr ⟨trivial, Trace.tame_nil⟩⟩
  | join state =>
    exact awaitAll_tame _ _ fun one member => holds _ (List.mem_map_of_mem member)
  | trans early late first second =>
    exact Trace.tame_append.mpr ⟨first holds, second (early.holds fair.hands holds)⟩

/-- Every handle that a command replies with is awaited exactly once before the script ends, whether
it ends well or in a fault that names one of its lines, and no output of a script that ends well is
lost or written down twice. -/
theorem Engine.execute_collects (engine : Engine) (decent : engine.Fair) (name : String)
    (source : Source) (readable : source.failure = none) (state : State)
    (idle : state.background = []) :
    (engine.execute name source state).Accounted name state
      (engine.advance name source.lines state).ending := by
  have nothing : state.Holds Handle.Fair := by simp [State.Holds, State.outstanding, idle]
  have tame := (engine.execute_moves name source state).tame decent nothing
  exact execute_accounted decent.modest name readable idle tame

/-- A wait, a command whose handle fails and one whose handle puts out its arguments keep to their
part, so that a script of theirs loses nothing. -/
theorem Engine.execute_collects_failing :
    let usage : CommandUsage := ⟨"", "", [], true⟩
    let emit : Command := ⟨usage, fun args state =>
      (state, .handle (.known ⟨String.join args, ""⟩))⟩
    let fail : Command := ⟨usage, fun _ state => (state, .handle (.task fun scene =>
      (scene, .error (.command (.worded "no") ⟨"out", "err"⟩))))⟩
    let wait : Command := Builtin.looking usage Builtin.wait
    let engine : Engine := ⟨⟨[("emit", emit), ("fail", fail), ("wait", wait)]⟩, .empty⟩
    let state := State.start .empty "/" .empty
    let source := Source.ofLines ["fail &\n", "emit a b &\n", "wait\n", "emit c &\n"]
    engine.Fair ∧ source.failure = none ∧ state.background = [] ∧
      (engine.execute "s" source state).Accounted "s" state
        (engine.advance "s" source.lines state).ending := by
  intro usage emit fail wait engine state source
  have known : emit.Fair := by
    refine ⟨fun _ _ => rfl, fun _ _ => rfl, by rintro _ _ _ ⟨⟩, ?_⟩
    rintro args state _ ⟨⟩ scene
    exact ⟨rfl, by rintro _ ⟨⟩⟩
  have failing : fail.Fair := by
    refine ⟨fun _ _ => rfl, fun _ _ => rfl, by rintro _ _ _ ⟨⟩, ?_⟩
    rintro args state _ ⟨⟩ scene
    refine ⟨rfl, ?_⟩
    rintro _ ⟨⟩
    exact ⟨_, _, rfl⟩
  have waiting : wait.Fair := by
    refine ⟨fun _ _ => rfl, fun _ _ => rfl, ?_, ?_⟩
    · rintro (_ | ⟨arg, args⟩) state fault raised
      · cases raised
      · cases raised
        exact .inl rfl
    · rintro (_ | ⟨arg, args⟩) state handle replied
      · cases replied
        trivial
      · cases replied
  have decent : engine.Fair := by
    apply fair_of_entries
    simpa [engine] using ⟨known, failing, waiting⟩
  exact ⟨decent, rfl, rfl, engine.execute_collects decent "s" source rfl state rfl⟩

/-! ## Commands that every engine knows -/

namespace Engine

theorem modest_standard : standard.Modest := fun _ _ found => (tidy_standard found).toModest

theorem modest_extend (naming : Builtin.Naming) : (standard.extend naming).Modest :=
  fun _ _ found => (tidy_extend naming found).toModest

end Engine

/-- Among contained commands, all that is caught is expected. -/
theorem Trace.Contained.tame {loose : Prop} {names : String → Option Nat} {trace : Trace}
    (contained : trace.Contained loose names)
    (caught : ∀ fault, trace.Raises fault → fault.isCaught = true) : trace.Tame := by
  have told {result : Except Fault Output}
      (ends : Ends (Fault.FromHandle loose) (fun _ => True) result)
      (known : ∀ fault, result = .error fault → fault.isCaught = true) : Told result := by
    rintro fault rfl
    have met := known fault rfl
    cases fault with
    | command failure output => exact ⟨failure, output, rfl⟩
    | value => cases met
    | _ => cases ends
  intro event member
  have own := contained event member
  have raised (fault : Fault) (came : event.raised? = some fault) : fault.isCaught = true :=
    caught fault ⟨event, member, came⟩
  cases event with
  | logged | tested => trivial
  | called line reply =>
    cases reply with
    | done | handle => trivial
    | fault fault => exact raised fault rfl
  | awaited held result =>
    cases held with
    | join => trivial
    | task run => exact told own fun fault failed => raised fault (by rw [failed]; rfl)
  | collected held result =>
    exact told own fun fault failed => raised fault (by rw [failed]; rfl)

/-- Modest commands that are contained lose nothing in a script where all that is raised is
caught. -/
theorem Engine.execute_caught {engine : Engine} (modest : engine.Modest) {loose : Prop}
    {names : String → Option Nat} (contained : engine.Contained loose names) (name : String)
    {source : Source} (readable : source.failure = none)
    (plain : ∀ line ∈ source.lines, Clean loose line.toList) {state : State}
    (own : state.Contained loose names) (idle : state.background = [])
    (caught : ∀ fault, (engine.execute name source state).trace.Raises fault →
      fault.isCaught = true) :
    (engine.execute name source state).Accounted name state
      (engine.advance name source.lines state).ending :=
  execute_accounted modest name readable idle
    ((execute_contained contained name plain own).1.tame caught)

/-- A script on given settings loses neither handles nor output, unless a NUL stands in one of the
texts that it is given, or the pattern of a search has a problem that is more than a defect. -/
theorem Settings.runScript_accounted {settings : Settings} (valid : settings.IsValid)
    {machine : Machine} (name : String) {source : Source} (readable : source.failure = none)
    {state : State} (created : settings.state machine = .ok state)
    (plain : ¬settings.MeetsNul machine source) :
    ∃ engine, Engine.standard.extendNamed settings.naming = .ok engine ∧
      let run := engine.execute name source state
      ((∀ line fault, .called line (.fault fault) ∈ run.trace →
          ¬Builtin.Spills machine.platform.character line.name line.args fault) →
        settings.runScript machine name source = run.performance name ∧
          run.Accounted name state (engine.advance name source.lines state).ending) := by
  obtain ⟨naming, named⟩ := valid.naming
  refine ⟨_, named, fun sound => ⟨by simp only [runScript, named, created], ?_⟩⟩
  obtain ⟨refusal, refused⟩ | ⟨refused, _⟩ | ⟨pwd, env, started, directory, read⟩ :=
    State.create_cases machine settings.workdir machine.environ.toEntries
  · cases created.symm.trans refused
  · cases created.symm.trans refused
  · cases created.symm.trans started
    obtain ⟨environ, clean⟩ := settings.clean_of_meetsNul machine source
    have own := State.contained_start environ directory read
    refine Engine.execute_caught (Engine.modest_extend naming) (Engine.contained_extend naming) name
      readable clean own rfl fun fault raised => ?_
    have events := (Engine.execute_contained (Engine.contained_extend naming) name clean own).1
    cases caught : fault.isCaught with
    | true => rfl
    | false =>
      rcases events.raises caught raised with ⟨meets, _⟩ | ⟨line, called, spilled⟩
      · exact absurd meets plain
      · exact absurd spilled (sound line fault called)

end LineScript
