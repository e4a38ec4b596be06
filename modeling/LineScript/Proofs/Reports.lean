import LineScript.Proofs.Background
import LineScript.Proofs.Containment
import LineScript.Proofs.Dialogues

/-!
# Which failures are reported
Running a script comes to a report whatever fails in it, with two exceptions: the fault that a NUL
in a path or in what a program is given makes, and the problems of patterns that are more than
defects, are passed on to whoever asked for the run (`runScript_reports`). They are just the
uncaught faults that a command or a handle raises meanwhile.
-/
namespace LineScript

variable {loose : Prop} {names : String → Option Nat}

/-! ## What the engine keeps -/

/-- A state that is clean and has only contained handles in its background. -/
structure State.Contained (loose : Prop) (names : String → Option Nat) (state : State) : Prop where
  scene : state.toScene.Clean loose names
  background : state.Holds (Handle.Contained loose names)
  manual : ∀ manual, state.manual = some manual → manual.Steady

/-- What a contained command or handle may come to. -/
def Event.Contained (loose : Prop) (names : String → Option Nat) : Event → Prop
  | .called line (.fault raised) => raised.Allowed loose (Builtin.Spills names line.name line.args)
  | .awaited (.task _) result => Ends (Fault.FromHandle loose) (fun _ => True) result
  | .collected _ result => Ends (Fault.FromHandle loose) (fun _ => True) result
  | _ => True

def Trace.Contained (loose : Prop) (names : String → Option Nat) (trace : Trace) : Prop :=
  ∀ event ∈ trace, event.Contained loose names

namespace Trace

theorem Contained.append {first second : Trace} (early : first.Contained loose names)
    (late : second.Contained loose names) : (first ++ second).Contained loose names :=
  List.forall_mem_append.mpr ⟨early, late⟩

theorem contained_single {event : Event} (own : event.Contained loose names) :
    Trace.Contained loose names [event] := by simpa [Trace.Contained] using own

theorem Quiet.contained {trace : Trace} (quiet : trace.Quiet) : trace.Contained loose names := by
  intro event member
  have still := quiet event member
  cases event with
  | logged | tested => trivial
  | called | awaited | collected => cases still

end Trace

theorem Handle.Contained.await {handle : Handle} (contained : handle.Contained loose names)
    {scene : Scene} (clean : scene.Clean loose names) : (handle.await scene).1.Clean loose names ∧
      Ends (Fault.FromHandle loose) (fun _ => True) (handle.await scene).2 := by
  cases handle with
  | task run => exact contained scene clean
  | join => exact ⟨clean, trivial⟩

theorem awaitAll_contained (pending : List Pending)
    (contained : ∀ one ∈ pending, one.handle.Contained loose names) {scene : Scene}
    (clean : scene.Clean loose names) : (awaitAll pending scene).1.Clean loose names ∧
      (awaitAll pending scene).2.1.Contained loose names := by
  induction pending generalizing scene with
  | nil => exact ⟨clean, by simp [awaitAll, Trace.Contained]⟩
  | cons first rest ih =>
    obtain ⟨kept, ends⟩ := (contained first (by simp)).await clean
    cases known : Outcome.ofResult (first.handle.await scene).2 with
    | error fault =>
      rw [awaitAll_of_error known]
      exact ⟨kept, Trace.contained_single ends⟩
    | ok outcome =>
      obtain ⟨later, events⟩ :=
        ih (fun one member => contained one (List.mem_cons_of_mem _ member)) kept
      rw [awaitAll_of_ok known]
      exact ⟨later, List.forall_mem_cons.mpr ⟨ends, events⟩⟩

namespace State

variable {state : State}

theorem Contained.record (own : state.Contained loose names) (output : Output) :
    (state.record output).Contained loose names where
  scene := ⟨own.scene.pwd, own.scene.environ, own.scene.env, own.scene.jobs, own.scene.names⟩
  background := own.background
  manual := own.manual

theorem Contained.join (own : state.Contained loose names) :
    state.join.1.Contained loose names ∧ state.join.2.1.Contained loose names := by
  obtain ⟨clean, events⟩ := awaitAll_contained state.background
    (fun one member => own.background _ (List.mem_map_of_mem member)) own.scene
  refine ⟨⟨clean, ?_, own.manual⟩, events⟩
  simp [Holds, outstanding, State.join]

theorem Contained.await (own : state.Contained loose names) {handle : Handle}
    (contained : handle.Contained loose names) : (state.await handle).1.Contained loose names ∧
      (state.await handle).2.1.Contained loose names := by
  cases handle with
  | task run =>
    obtain ⟨clean, ends⟩ := contained state.toScene own.scene
    exact ⟨⟨clean, own.background, own.manual⟩, Trace.contained_single ends⟩
  | join =>
    obtain ⟨kept, events⟩ := own.join
    exact ⟨kept, List.forall_mem_cons.mpr ⟨trivial, events⟩⟩

/-- A wait in the background that breaks off does so with an uncaught fault. -/
theorem Contained.join_error (own : state.Contained loose names) {fault : Fault}
    (broken : state.join.2.2 = .error fault) (foreign : Outcome.ofFault? fault = none) :
    fault.isCaught = false := by
  obtain ⟨handle, member⟩ := state.collected_of_join_error broken foreign
  have ends : fault.FromHandle loose := own.join.2 _ member
  cases fault with
  | command => cases foreign
  | value => rfl
  | _ => cases ends

end State

/-! ## Lines -/

namespace Engine
open Trace

/-- An effect that leaves a contained state, and events of that kind. -/
structure Effect.Contained (loose : Prop) (names : String → Option Nat) (effect : Effect) :
    Prop where
  state : effect.1.Contained loose names
  events : effect.2.1.Contained loose names

theorem Effect.Contained.after {before : Trace} {effect : Effect}
    (contained : Effect.Contained loose names effect) (early : before.Contained loose names) :
    Effect.Contained loose names (Effect.after before effect) :=
  ⟨contained.state, early.append contained.events⟩

variable {state : State}

theorem conclude_contained (own : state.Contained loose names) (want : Script.Expect)
    (outcome : Outcome) : Effect.Contained loose names (conclude want state outcome) :=
  ⟨own.record outcome.output, (quiet_ofEntries _).contained⟩

theorem concludeFault_contained (own : state.Contained loose names) (want : Script.Expect)
    (fault : Fault) : Effect.Contained loose names (concludeFault want state fault) := by
  unfold concludeFault
  split
  · exact conclude_contained own want _
  · exact ⟨own, quiet_nil.contained⟩

theorem concludeResult_contained (own : state.Contained loose names) (want : Script.Expect)
    (result : Except Fault Output) :
    Effect.Contained loose names (concludeResult want state result) := by
  cases result with
  | ok output => exact conclude_contained own want _
  | error fault => exact concludeFault_contained own want fault

theorem handleReply_contained (own : state.Contained loose names) (line : Script.Line)
    {reply : Reply}
    (contained : reply.Contained loose names (Builtin.Spills names line.name line.args)) :
    Effect.Contained loose names
      (Effect.after [.called line reply] (handleReply line state reply)) := by
  cases reply with
  | done => exact ⟨own, contained_single trivial⟩
  | fault raised =>
    exact (concludeFault_contained own line.want raised).after (contained_single contained)
  | handle handle =>
    refine Effect.Contained.after ?_ (contained_single trivial)
    rw [handleReply]
    by_cases background : line.background = true
    · rw [if_pos background]
      refine ⟨⟨own.scene, ?_, own.manual⟩, quiet_nil.contained⟩
      intro one member
      rw [State.outstanding_send] at member
      rcases List.mem_append.mp member with early | late
      · exact own.background one early
      · obtain rfl := List.mem_singleton.mp late
        exact contained
    · rw [if_neg background]
      obtain ⟨kept, events⟩ := own.await contained
      exact (concludeResult_contained kept line.want _).after events

variable {engine : Engine} (contained : engine.Contained loose names)
include contained

theorem runLine_contained (own : state.Contained loose names) {line : Script.Line}
    (given : ∀ arg ∈ line.args, Clean loose arg.toList) :
    Effect.Contained loose names (engine.runLine line state) := by
  rcases engine.runLine_cases line state with
    ⟨trace, result, quiet, _, ran⟩ | ⟨trace, command, after, reply, quiet, found, replied, ran⟩
  · rw [ran]
    exact ⟨own, quiet.contained⟩
  · have holds := contained.commands _ _ found
    obtain ⟨clean, allowed⟩ := holds.runs line.args state given own.scene own.manual
    have aloof := holds.aloof line.args state
    have manual : after.manual = state.manual := by
      cases replied
      rfl
    rw [replied] at clean allowed aloof
    have still : after.Contained loose names := by
      refine ⟨clean, ?_, by rw [manual]; exact own.manual⟩
      rw [State.Holds, State.outstanding, aloof]
      exact own.background
    have called := (handleReply_contained still line allowed).after quiet.contained
    rw [ran]
    simpa only [Effect.after, List.append_assoc] using called

theorem step_contained (own : state.Contained loose names) {raw : String}
    (plain : Clean loose raw.toList) : (engine.step raw state).state.Contained loose names ∧
      (engine.step raw state).trace.Contained loose names := by
  obtain ⟨_, stepped⟩ | ⟨_, ⟨_, stepped⟩ | ⟨_, stepped⟩ | ⟨_, _, stepped⟩ |
    ⟨line, read, stepped⟩⟩ := engine.step_shape raw state
  all_goals rw [stepped]
  · exact ⟨own, quiet_nil.contained⟩
  · exact ⟨own, contained_single trivial⟩
  · exact ⟨own, contained_single trivial⟩
  · exact ⟨own, quiet_nil.contained⟩
  · have stripped : Clean loose (Text.stripLineEnd raw).toList := by
      rw [Text.stripLineEnd, String.toList_ofList]
      exact plain.part (dropEndWhile_subset _ _)
    have ran := runLine_contained contained own (Script.Line.clean_args own.scene.env stripped read)
    obtain ⟨last, sequel, quiet, _, made⟩ := Step.ofEffect_spec line.raw (engine.runLine line state)
    rw [made]
    exact ⟨ran.state, ran.events.append quiet.contained⟩

theorem runLines_contained (name : String) (count : Nat) {lines : List String}
    (plain : ∀ line ∈ lines, Clean loose line.toList) (own : state.Contained loose names) :
    (engine.runLines name count lines state).state.Contained loose names ∧
      (engine.runLines name count lines state).trace.Contained loose names := by
  induction lines generalizing count state with
  | nil => exact ⟨own, quiet_nil.contained⟩
  | cons raw rest ih =>
    obtain ⟨kept, events⟩ := step_contained contained own (plain raw (by simp))
    rw [runLines]
    cases (engine.step raw state).sequel with
    | next =>
      obtain ⟨later, more⟩ :=
        ih (count + 1) (fun line member => plain line (List.mem_cons_of_mem _ member)) kept
      exact ⟨later, events.append more⟩
    | stop => exact ⟨⟨kept.scene, kept.background, kept.manual⟩, events⟩
    | fail text cause => exact ⟨kept, events⟩
    | escape fault => exact ⟨kept, events⟩

end Engine

/-! ## Ends of scripts -/

namespace State
open Trace

variable {state : State} (own : state.Contained loose names)
include own

theorem finish_contained (name : String) (lineno : Nat) :
    (state.finish name lineno).trace.Contained loose names ∧
      ((state.finish name lineno).Ended name ∨
        ∃ fault, fault.isCaught = false ∧ (state.finish name lineno).result = .error fault) := by
  have events := own.join.2
  have ends := state.finishes name lineno
  generalize state.finish name lineno = run at ends ⊢
  cases ends with
  | idle => exact ⟨quiet_nil.contained, .inl (.inl rfl)⟩
  | ended => exact ⟨events.append (quiet_ofEntries _).contained, .inl (.inl rfl)⟩
  | failed => exact ⟨events.append (quiet_ofEntries _).contained, .inl (.inr ⟨_, _, _, rfl⟩)⟩
  | broken joined foreign => exact ⟨events, .inr ⟨_, own.join_error joined foreign, rfl⟩⟩

theorem abandon_contained (reason : Fault) :
    (state.abandon reason).trace.Contained loose names ∧
      ((state.abandon reason).result = .error reason ∨
        ∃ fault, fault.isCaught = false ∧ (state.abandon reason).result = .error fault) := by
  have events := own.join.2
  have ends := state.abandons reason
  generalize state.abandon reason = run at ends ⊢
  cases ends with
  | idle => exact ⟨quiet_nil.contained, .inl rfl⟩
  | ended => exact ⟨events, .inl rfl⟩
  | failed => exact ⟨events.append (quiet_ofEntries [.note _]).contained, .inl rfl⟩
  | broken joined foreign => exact ⟨events, .inr ⟨_, own.join_error joined foreign, rfl⟩⟩

theorem interrupt_contained (reason : Fault) :
    (state.interrupt reason).trace.Contained loose names ∧
      ((state.interrupt reason).result = .error reason ∨
        ∃ fault, fault.isCaught = false ∧ (state.interrupt reason).result = .error fault) := by
  rcases state.interrupt_cases reason with ⟨_, ended⟩ | ⟨_, ended⟩
  · rw [ended]
    exact abandon_contained own reason
  · rw [ended]
    exact ⟨quiet_nil.contained, .inl rfl⟩

end State

/-- A script that contained commands run ends well, in a fault that names one of its lines, in what
reading met, or in an uncaught fault. -/
theorem Engine.execute_contained {engine : Engine} (contained : engine.Contained loose names)
    (name : String) {source : Source} (plain : ∀ line ∈ source.lines, Clean loose line.toList)
    {state : State} (own : state.Contained loose names) :
    let run := engine.execute name source state
    run.trace.Contained loose names ∧ (run.Ended name ∨
      (∃ fault, source.failure = some fault ∧ run.result = .error fault) ∨
      ∃ fault, fault.isCaught = false ∧ run.result = .error fault) := by
  intro run
  have attached : (engine.attach state).Contained loose names := by
    refine ⟨own.scene, own.background, ?_⟩
    rintro _ ⟨⟩
    exact contained.manual
  obtain ⟨kept, early⟩ := runLines_contained contained name 0 plain attached
  have escaping := engine.runLines_escape name 0 source.lines (engine.attach state)
  let progress := engine.advance name source.lines state
  let last := progress.ending.run name source.failure progress.state
  suffices ends : last.trace.Contained loose names ∧ (last.Ended name ∨
      (∃ fault, source.failure = some fault ∧ last.result = .error fault) ∨
      ∃ fault, fault.isCaught = false ∧ last.result = .error fault) from
    ⟨early.append ends.1, ends.2⟩
  have nothing : Trace.Contained loose names [] := Trace.quiet_nil.contained
  cases ending : progress.ending with
  | finished lineno =>
    cases failure : source.failure with
    | none =>
      obtain ⟨late, ended⟩ := State.finish_contained kept name lineno
      simp only [last, ending, failure]
      exact ⟨late, ended.imp_right .inr⟩
    | some fault =>
      obtain ⟨late, ended⟩ := State.interrupt_contained kept fault
      simp only [last, ending, failure]
      exact ⟨late, .inr (ended.imp_left fun failed => ⟨fault, rfl, failed⟩)⟩
  | stopped lineno =>
    obtain ⟨late, ended⟩ := State.finish_contained kept name lineno
    simp only [last, ending]
    exact ⟨late, ended.imp_right .inr⟩
  | failed lineno text cause =>
    obtain ⟨late, ended⟩ := State.abandon_contained kept (.execution name lineno text cause)
    simp only [last, ending]
    exact ⟨late, ended.imp (fun failed => .inr ⟨_, _, _, failed⟩) .inr⟩
  | escaped fault =>
    simp only [last, ending]
    exact ⟨nothing, .inr (.inr ⟨fault, ((escaping fault).mp ending).1, rfl⟩)⟩

/-- An uncaught fault that was raised among contained events is that of a NUL, or a problem with a
pattern. -/
theorem Trace.Contained.raises {trace : Trace} (contained : trace.Contained loose names)
    {fault : Fault} (uncaught : fault.isCaught = false) (raised : trace.Raises fault) :
    loose ∧ fault = .value .embeddedNul ∨
      ∃ line, .called line (.fault fault) ∈ trace ∧
        Builtin.Spills names line.name line.args fault := by
  have handle (from' : fault.FromHandle loose) : loose ∧ fault = .value .embeddedNul := by
    cases fault with
    | command => cases uncaught
    | value other =>
      cases other with
      | embeddedNul => exact ⟨from', rfl⟩
      | _ => cases from'
    | _ => cases from'
  obtain ⟨event, member, came⟩ := raised
  have own := contained event member
  cases event with
  | logged | tested => cases came
  | called line reply =>
    cases reply with
    | done | handle => cases came
    | fault other =>
      cases came
      cases own with
      | caught caught => simp [uncaught] at caught
      | nul about => exact .inl ⟨about, rfl⟩
      | spilled spilled => exact .inr ⟨line, member, spilled⟩
  | awaited held result =>
    cases held with
    | join => cases came
    | task run =>
      cases result with
      | ok output => cases came
      | error other =>
        cases came
        exact .inl (handle own)
  | collected held result =>
    cases result with
    | ok output => cases came
    | error other =>
      cases came
      exact .inl (handle own)

/-! ## Reports -/

/-- What reading a script can meet. -/
def Fault.IsReading : Fault → Prop
  | .system _ => True
  | .decoding _ => True
  | _ => False

/-- A NUL stands in one of the texts that a run is given: where scripts start, the environment of
the program itself, and the lines of the script. -/
def Settings.MeetsNul (settings : Settings) (machine : Machine) (source : Source) : Prop :=
  Files.Store.hasNul settings.workdir = true ∨
    (∃ entry ∈ machine.environ.entries,
      Files.Store.hasNul entry.1 = true ∨ Files.Store.hasNul entry.2 = true) ∨
    ∃ line ∈ source.lines, Files.Store.hasNul line = true

/-- What a report may say of why a script failed: nothing, the fault that names a line, or what
reading the script met. -/
def Source.Tells (source : Source) (name : String) (failure : Option Fault) : Prop :=
  failure = none ∨ (∃ lineno text cause, failure = some (.execution name lineno text cause)) ∨
    ∃ cause, source.failure = some cause ∧ failure = some (.unread name cause)

theorem State.contained_start {machine : Machine} {pwd : String} {env : Environment}
    (environ : machine.environ.Clean loose) (directory : machine.store.isDirectory pwd = true)
    (read : Environment.ofEntries machine.environ.toEntries = .ok env) :
    (State.start machine pwd env).Contained loose machine.platform.character := by
  have plain : Clean loose pwd.toList := by
    apply clean_of_hasNul
    cases nul : Files.Store.hasNul pwd with
    | false => rfl
    | true => simp [Files.Store.isDirectory, Files.Store.stat?, nul] at directory
  have values : env.Clean loose :=
    Environment.clean_ofEntries (Environment.clean_toEntries environ) read
  constructor
  · exact ⟨plain, environ, Environment.clean_insert values (by simp [Clean]) plain,
      by simp [start], rfl⟩
  · simp [Holds, outstanding, start]
  · rintro _ ⟨⟩

theorem Run.performance_of_ended {run : Run} {name : String} (source : Source)
    (ended : run.Ended name) : ∃ failure, (run.performance name).result =
      .ok ⟨run.state.written, run.trace.log, failure⟩ ∧ source.Tells name failure := by
  rcases ended with well | ⟨lineno, text, cause, failed⟩
  · exact ⟨none, by simp [performance, well], .inl rfl⟩
  · refine ⟨some (.execution name lineno text cause), ?_, .inr (.inl ⟨_, _, _, rfl⟩)⟩
    simp [performance, failed, Fault.asReported, Fault.isScript]

theorem Run.performance_of_reading {run : Run} {fault : Fault} (name : String)
    (reading : fault.IsReading) (failed : run.result = .error fault) :
    (run.performance name).result =
      .ok ⟨run.state.written, run.trace.log, some (.unread name fault)⟩ := by
  cases fault with
  | system | decoding => simp [performance, failed, Fault.asReported, Fault.isScript]
  | _ => cases reading

/-- Uncaught faults that contained commands and handles raise are not reported. -/
theorem Run.performance_of_raised {run : Run} {fault : Fault} (name : String)
    (uncaught : fault.isCaught = false) (failed : run.result = .error fault)
    (kind : loose ∧ fault = .value .embeddedNul ∨
      ∃ line, .called line (.fault fault) ∈ run.trace ∧
        Builtin.Spills names line.name line.args fault) :
    (run.performance name).result = .error fault := by
  have unreported : fault.asReported name = none := by
    rcases kind with ⟨_, rfl⟩ | ⟨_, _, _, _, _, _, problem, _, _, rfl, _⟩
    · rfl
    · cases problem with
      | defect => cases uncaught
      | _ => rfl
  simp only [performance, failed, unreported]

/-- What contained commands run comes to a report, unless an uncaught fault is raised meanwhile:
that is passed on. -/
theorem Engine.execute_reports {engine : Engine} (contained : engine.Contained loose names)
    (name : String) {source : Source} (plain : ∀ line ∈ source.lines, Clean loose line.toList)
    (reading : ∀ fault, source.failure = some fault → fault.IsReading) {state : State}
    (own : state.Contained loose names) :
    let run := engine.execute name source state
    ((∀ fault, run.trace.Raises fault → fault.isCaught = true) ∧
      ∃ failure, (run.performance name).result =
        .ok ⟨run.state.written, run.trace.log, failure⟩ ∧ source.Tells name failure) ∨
    ∃ fault, fault.isCaught = false ∧ run.trace.Raises fault ∧
      (run.performance name).result = .error fault ∧
      (loose ∧ fault = .value .embeddedNul ∨
        ∃ line, .called line (.fault fault) ∈ run.trace ∧
          Builtin.Spills names line.name line.args fault) := by
  intro run
  obtain ⟨events, ended⟩ := execute_contained contained name plain own
  have escapes (fault : Fault) (uncaught : fault.isCaught = false) :=
    engine.execute_escapes name source state uncaught
  by_cases raises : ∃ fault, fault.isCaught = false ∧ run.trace.Raises fault
  · right
    obtain ⟨fault, uncaught, raised⟩ := raises
    have failed : run.result = .error fault := (escapes fault uncaught).mpr (.inl raised)
    have kind := events.raises uncaught raised
    exact ⟨fault, uncaught, raised, Run.performance_of_raised name uncaught failed kind, kind⟩
  · left
    constructor
    · intro fault raised
      cases caught : fault.isCaught with
      | true => rfl
      | false => exact absurd ⟨fault, caught, raised⟩ raises
    · have unread (fault : Fault) (met : source.failure = some fault)
          (failed : run.result = .error fault) : ∃ failure, (run.performance name).result =
            .ok ⟨run.state.written, run.trace.log, failure⟩ ∧ source.Tells name failure :=
        ⟨_, Run.performance_of_reading name (reading fault met) failed,
          .inr (.inr ⟨fault, met, rfl⟩)⟩
      obtain named | ⟨fault, met, failed⟩ | ⟨fault, uncaught, failed⟩ := ended
      · exact Run.performance_of_ended source named
      · exact unread fault met failed
      · rcases (escapes fault uncaught).mp failed with raised | ⟨met, _⟩
        · exact absurd ⟨fault, uncaught, raised⟩ raises
        · exact unread fault met failed

theorem Settings.clean_of_meetsNul (settings : Settings) (machine : Machine) (source : Source) :
    machine.environ.Clean (settings.MeetsNul machine source) ∧
      ∀ line ∈ source.lines, Clean (settings.MeetsNul machine source) line.toList := by
  have nul {text : String} (inside : '\x00' ∈ text.toList) : Files.Store.hasNul text = true := by
    simpa [Files.Store.hasNul] using inside
  constructor
  · intro entry member
    constructor
    · intro inside
      exact .inr (.inl ⟨entry, member, .inl (nul inside)⟩)
    · intro inside
      exact .inr (.inl ⟨entry, member, .inr (nul inside)⟩)
  · intro line member inside
    exact .inr (.inr ⟨line, member, nul inside⟩)

/-- A script on given settings comes to a report whatever fails in it: a state that cannot be made,
a line, or reading. The report has all that was written and logged until then. Only if an uncaught
fault is raised meanwhile, it is passed on instead: the fault of a NUL, which then stands in one of
the texts that the run is given, or a problem of the pattern that a search was called with. The one
other way to have no report is a NUL in the name of a user whose home scripts should start in. -/
theorem Settings.runScript_reports {settings : Settings} (valid : settings.IsValid)
    (machine : Machine) (name : String) {source : Source}
    (reading : ∀ fault, source.failure = some fault → fault.IsReading) :
    let performance := settings.runScript machine name source
    (∃ refusal, settings.state machine = .error (.context refusal) ∧
      performance.result = .ok (.unstarted (.context refusal))) ∨
    (settings.state machine = .error (.value .embeddedNul) ∧
      Files.Store.hasNul settings.workdir = true ∧
      performance.result = .error (.value .embeddedNul)) ∨
    ∃ engine state, Engine.standard.extendNamed settings.naming = .ok engine ∧
      settings.state machine = .ok state ∧
      let run := engine.execute name source state
      ((∀ fault, run.trace.Raises fault → fault.isCaught = true) ∧
        ∃ failure, performance.result = .ok ⟨run.state.written, run.trace.log, failure⟩ ∧
          source.Tells name failure) ∨
      ∃ fault, fault.isCaught = false ∧ run.trace.Raises fault ∧
        performance.result = .error fault ∧
        (settings.MeetsNul machine source ∧ fault = .value .embeddedNul ∨
          ∃ line, .called line (.fault fault) ∈ run.trace ∧
            Builtin.Spills machine.platform.character line.name line.args fault) := by
  intro performance
  obtain ⟨naming, named⟩ := valid.naming
  obtain ⟨refusal, refused⟩ | ⟨refused, nul⟩ | ⟨pwd, env, started, directory, read⟩ :=
    State.create_cases machine settings.workdir machine.environ.toEntries
  · left
    refine ⟨refusal, refused, ?_⟩
    simp [performance, runScript, named, Settings.state, refused, Fault.isScript]
  · right; left
    refine ⟨refused, nul, ?_⟩
    simp [performance, runScript, named, Settings.state, refused, Fault.isScript]
  · right; right
    obtain ⟨environ, plain⟩ := settings.clean_of_meetsNul machine source
    have created : settings.state machine = .ok (.start machine pwd env) := started
    have performed : performance = ((Engine.standard.extend naming).execute name source
        (.start machine pwd env)).performance name := by
      simp only [performance, runScript, named, created]
    refine ⟨_, _, named, created, ?_⟩
    rw [performed]
    exact Engine.execute_reports (Engine.contained_extend naming) name plain reading
      (State.contained_start environ directory read)

/-- A file that cannot be read to its end fails in reading, and the report says so. -/
theorem Settings.runScript_reports_unread :
    let settings : Settings := ⟨false, false, false, "short", "/"⟩
    let machine : Machine := .empty
    let cause := Fault.system (.worded 5 "Input/output error")
    let source : Source := ⟨["#\n"], some cause⟩
    settings.IsValid ∧ (∀ fault, source.failure = some fault → fault.IsReading) ∧
      ∃ failure, (settings.runScript machine "s" source).result = .ok ⟨.empty, "#\n", failure⟩ ∧
        source.Tells "s" failure := by
  intro settings machine cause source
  have valid : settings.IsValid := by decide
  have reading (fault : Fault) (met : source.failure = some fault) : fault.IsReading := by
    cases met
    trivial
  have created : settings.state machine = .ok (.start machine "/" .empty) :=
    State.create_root machine rfl
  refine ⟨valid, reading, ?_⟩
  have runs (engine : Engine) : engine.execute "s" source (.start machine "/" .empty) =
      ⟨engine.attach (.start machine "/" .empty), [.logged (.comment "#")], .error cause⟩ := by
    simp only [machine]
    rfl
  obtain ⟨_, refused, _⟩ | ⟨refused, _⟩ | ⟨engine, state, _, started, ended⟩ :=
    settings.runScript_reports valid machine "s" reading
  · simp [created] at refused
  · simp [created] at refused
  · obtain rfl : State.start machine "/" .empty = state := by simpa [created] using started
    simp only [runs] at ended
    obtain ⟨_, reported⟩ | ⟨fault, _, raised, _⟩ := ended
    · exact reported
    · exact absurd raised (Trace.not_raises_logged _)

/-- A script of one line whose command raises an uncaught fault ends in it. -/
theorem Engine.execute_uncaught {engine : Engine} {line : Script.Line} {state after : State}
    {command : Command} {fault : Fault} (name : String)
    (alive : state.isCanceled = false)
    (read : Script.Line.parse line.raw state.env.expand = .ok (some line))
    (unguarded : line.guards = []) (foreground : line.background = false)
    (found : engine.commands.find? line.name = some command)
    (replied : command.run line.args (engine.attach state) = (after, .fault fault))
    (uncaught : fault.isCaught = false) :
    (engine.execute name (.ofLines [line.raw ++ "\n"]) state).result = .error fault := by
  have called := runLine_called unguarded found (by simp [foreground]) replied
  have stepped := (@step_read engine line (engine.attach state) alive read).trans
    (congrArg (Step.ofEffect line.raw) called)
  obtain ⟨last, sequel, _, _, shape⟩ := Step.ofEffect_spec line.raw
    (Effect.after [.logged (.echo line.raw), .called line (.fault fault)]
      (handleReply line after (.fault fault)))
  have escaped : (engine.step (line.raw ++ "\n") (engine.attach state)).sequel = .escape fault := by
    refine (engine.step_escape _ _ fault).mpr ⟨uncaught, ?_⟩
    rw [stepped, shape]
    exact ⟨.called line (.fault fault), by simp [Effect.after], rfl⟩
  simp only [execute, advance, Source.ofLines, runLines, escaped]
  rfl

/-- Scripts start in the root. -/
private def bareSettings : Settings := ⟨false, false, false, "short", "/"⟩

/-- So a script of one line is not reported whose command only looks at the state and raises such a
fault: nothing stands between the executor and whoever asked for the run. -/
private theorem runScript_uncaught {line : Script.Line} {usage : CommandUsage}
    {look : List String → State → Except Fault Reply} {fault : Fault}
    {words : List Script.Word} (trimmed : Text.Trimmed line.raw.toList)
    (visible : ∃ c cs, line.raw.toList = c :: cs ∧ c ≠ '#')
    (split : ∀ env : Environment, Script.splitWords line.raw env.expand = .ok words)
    (made : Script.Line.ofWords line.raw words = .ok line)
    (unguarded : line.guards = []) (foreground : line.background = false)
    (found : (Engine.standard.extend .short).commands.find? line.name =
      some (Builtin.looking usage look))
    (refused : ∀ state : State, state.machine = .empty → state.pwd = "/" →
      look line.args state = .error fault)
    (uncaught : fault.isCaught = false) (unreported : fault.asReported "s" = none) :
    (bareSettings.runScript .empty "s" (.ofLines [line.raw ++ "\n"])).result =
      .error fault := by
  have created : bareSettings.state .empty = .ok (.start .empty "/" .empty) :=
    State.create_root .empty rfl
  have named : Engine.standard.extendNamed bareSettings.naming =
      .ok (.extend .standard .short) := rfl
  have replied (state : State) (bare : state.machine = .empty) (here : state.pwd = "/") :
      (Builtin.looking usage look).run line.args state = (state, .fault fault) := by
    simp [Command.run, Builtin.looking, Builtin.replyOf, refused state bare here]
  have failed := @Engine.execute_uncaught (.extend .standard .short) line
    (.start .empty "/" .empty) _ _ _ "s" rfl
    (Script.Line.parse_trimmed trimmed visible (split _) made) unguarded foreground found
    (replied _ rfl rfl) uncaught
  simp only [Settings.runScript, named, created, Run.performance, failed, unreported]

/-- A NUL in a path makes a fault that is passed on, and so do flags that clash in a pattern. -/
theorem Settings.runScript_reports_not_nul :
    let settings : Settings := ⟨false, false, false, "short", "/"⟩
    let machine : Machine := .empty
    let nul := Source.ofText "cat 'a\x00b'\n"
    let flags := Source.ofText "stdout '(?a)(?u)x'\n"
    settings.IsValid ∧ nul.failure = none ∧ flags.failure = none ∧
      (settings.runScript machine "s" nul).result = .error (.value .embeddedNul) ∧
      (settings.runScript machine "s" flags).result = .error (.value .clashingFlags) := by
  intro settings machine nul flags
  refine ⟨by decide, rfl, rfl, ?_, ?_⟩
  · have lines : nul = .ofLines ["cat 'a\x00b'" ++ "\n"] := rfl
    have trimmed : Text.Trimmed "cat 'a\x00b'".toList :=
      Text.trimmed_framed (by decide) (by decide) "at 'a\x00b".toList
    have words : Script.rawWords "cat 'a\x00b'" =
      .ok [[.plain "cat".toList], [.quoted "a\x00b".toList]] := rfl
    rw [lines]
    refine @runScript_uncaught ⟨"cat 'a\x00b'", "cat", ["a\x00b"], [], .success, false⟩ _ _
      (.value .embeddedNul) _ trimmed ⟨'c', _, rfl, by decide⟩
      (Script.splitWords_of_plain words (by simp)) rfl rfl rfl rfl ?_ rfl rfl
    intro state bare here
    have resolved : state.resolve "a\x00b" = .ok "/a\x00b" := by
      simp only [Scene.resolve, bare, here]
      rfl
    have held : Files.Store.hasNul "/a\x00b" = true := by decide
    simp [Builtin.cat, Builtin.readText, resolved, held, bind, Except.bind, throw, throwThe,
      MonadExceptOf.throw]
  · have lines : flags = .ofLines ["stdout '(?a)(?u)x'" ++ "\n"] := rfl
    have trimmed : Text.Trimmed "stdout '(?a)(?u)x'".toList :=
      Text.trimmed_framed (by decide) (by decide) "tdout '(?a)(?u)x".toList
    have words : Script.rawWords "stdout '(?a)(?u)x'" =
      .ok [[.plain "stdout".toList], [.quoted "(?a)(?u)x".toList]] := rfl
    rw [lines]
    refine @runScript_uncaught
      ⟨"stdout '(?a)(?u)x'", "stdout", ["(?a)(?u)x"], [], .success, false⟩ _ _
      (.value .clashingFlags) _ trimmed ⟨'s', _, rfl, by decide⟩
      (Script.splitWords_of_plain words (by simp)) rfl rfl rfl rfl ?_ rfl rfl
    intro state bare _
    rw [Builtin.searchStdout, Builtin.searchLast, Builtin.search, bare]
    simp only [Builtin.takeFlags, Builtin.compile_clash]
    rfl

end LineScript
