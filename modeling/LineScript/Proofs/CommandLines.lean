import LineScript.CommandLine

/-!
# The order of the runs of a command line
A command line does its tasks in turns, each on the machine that the one before it has left. What a
turn makes is printed before the next one begins; the first turn that fails is the last one, and its
place among the files is the exit code (`carryOut_turns`). The caller sees only the lowest eight
bits of that code (`carryOut_status`).
-/
namespace LineScript

/-- The run came to a report without a failure. -/
def Performance.succeeds (done : Performance) : Bool :=
  match done.result with
  | .ok report => report.success
  | .error _ => false

theorem Performance.succeeds_of_report {done : Performance} {report : Report}
    (reported : done.result = .ok report) : done.succeeds = report.success := by
  rw [succeeds, reported]

namespace CommandLine

/-! ## Turns -/

/-- A task at its place among others: the exit code that tells of its failure there, and what is
done. -/
structure Turn where
  task : Task
  code : Nat
  done : Performance

namespace Turn

/-- What is printed of a turn: what was noted meanwhile, the channels that are asked for, and then
the failure. A fault that leaves the run keeps it from a report. -/
def shown (channels : Channels) (turn : Turn) : List Emission :=
  Emission.ofNotes turn.done.notes ++ match turn.done.result with
    | .ok ⟨output, log, none⟩ => Emission.ofOutput (channels.present output log)
    | .ok ⟨output, log, some fault⟩ =>
      Emission.ofOutput (channels.present output log) ++ [.message ("Error: " ++ fault.message)]
    | .error _ => []

/-- What happens in a turn. -/
def events (channels : Channels) (turn : Turn) : List Event :=
  .ran turn.task :: emitted (turn.shown channels)

/-- What a command line comes to at a turn that fails. -/
def ending (turn : Turn) : Except Fault Nat := turn.done.result.map fun _ => turn.code

end Turn

section
variable (perform : Machine → Task → Performance) (channels : Channels)

/-- The turns of tasks, each on the machine that the one before it leaves, whatever becomes of
that. -/
def turns : List (Task × Nat) → Machine → List Turn
  | [], _ => []
  | (task, code) :: rest, machine =>
    let done := perform machine task
    ⟨task, code, done⟩ :: turns rest done.machine

/-- A command line that takes turns in order: if all go well, all of them happen, and the exit code
is zero. The first that fails happens as a whole, and nothing behind it; it decides the end. -/
structure Conclusion.TakesTurns (turns : List Turn) (machine : Machine) (conclusion : Conclusion) :
    Prop where
  succeeds : (∀ turn ∈ turns, turn.done.succeeds = true) → conclusion =
    ⟨(turns.getLast?.map (·.done.machine)).getD machine,
      turns.flatMap (Turn.events channels), .ok 0⟩
  fails : ∀ early turn late, turns = early ++ turn :: late →
    (∀ earlier ∈ early, earlier.done.succeeds = true) → turn.done.succeeds = false → conclusion =
      ⟨turn.done.machine, (early ++ [turn]).flatMap (Turn.events channels), turn.ending⟩

theorem map_turns (tasks : List (Task × Nat)) (machine : Machine) :
    (turns perform tasks machine).map (fun turn => (turn.task, turn.code)) = tasks := by
  induction tasks generalizing machine with
  | nil => rfl
  | cons first rest ih =>
    rw [turns, List.map_cons, ih]

theorem performAll_cons (task : Task) (code : Nat) (rest : List (Task × Nat)) (machine : Machine) :
    let turn : Turn := ⟨task, code, perform machine task⟩
    let after := performAll perform channels rest turn.done.machine
    performAll perform channels ((task, code) :: rest) machine =
      if turn.done.succeeds then { after with events := turn.events channels ++ after.events }
      else ⟨turn.done.machine, turn.events channels, turn.ending⟩ := by
  intro turn after
  rw [performAll]
  cases result : (perform machine task).result with
  | error fault =>
    have failed : turn.done.succeeds = false := by simp [Performance.succeeds, turn, result]
    simp [failed, turn, Turn.events, Turn.shown, Turn.ending, result, Except.map]
  | ok report =>
    obtain ⟨output, log, failure⟩ := report
    cases failure with
    | none =>
      have fine : turn.done.succeeds = true := by
        simp [Performance.succeeds, turn, result, Report.success]
      simp [fine, turn, after, Turn.events, Turn.shown, result, Report.success, reported, emitted]
    | some fault =>
      have failed : turn.done.succeeds = false := by
        simp [Performance.succeeds, turn, result, Report.success]
      simp [failed, turn, Turn.events, Turn.shown, Turn.ending, result, Report.success, reported,
        emitted, Except.map]

/-- Tasks are done in turns. -/
theorem performAll_turns (tasks : List (Task × Nat)) (machine : Machine) :
    (performAll perform channels tasks machine).TakesTurns channels (turns perform tasks machine)
      machine := by
  induction tasks generalizing machine with
  | nil => exact ⟨fun _ => rfl, by simp [turns]⟩
  | cons first rest ih =>
    obtain ⟨task, code⟩ := first
    have begun := performAll_cons perform channels task code rest machine
    have later := ih (perform machine task).machine
    constructor
    · intro fine
      rw [turns, List.forall_mem_cons] at fine
      rw [begun, if_pos fine.1, later.succeeds fine.2, turns, List.flatMap_cons,
        List.getLast?_cons]
      cases (turns perform rest (perform machine task).machine).getLast? <;> rfl
    · intro early turn late split fine failed
      cases early with
      | nil =>
        obtain ⟨rfl, rfl⟩ := List.cons.inj split
        rw [begun, if_neg (by simp [failed])]
        simp
      | cons earlier early =>
        obtain ⟨rfl, behind⟩ := List.cons.inj split
        rw [List.forall_mem_cons] at fine
        rw [begun, if_pos fine.1, later.fails early turn late behind fine.2 failed]
        simp

end

/-! ## What was run -/

theorem tasksRun_append (first second : List Event) :
    tasksRun (first ++ second) = tasksRun first ++ tasksRun second :=
  List.filterMap_append

theorem tasksRun_emitted (emissions : List Emission) : tasksRun (emitted emissions) = [] := by
  simp [tasksRun, emitted]

theorem tasksRun_flatMap (channels : Channels) (turns : List Turn) :
    tasksRun (turns.flatMap (Turn.events channels)) = turns.map Turn.task := by
  induction turns with
  | nil => rfl
  | cons turn rest ih =>
    have own : tasksRun (turn.events channels) = [turn.task] :=
      congrArg (turn.task :: ·) (tasksRun_emitted (turn.shown channels))
    rw [List.flatMap_cons, tasksRun_append, own, ih, List.map_cons, List.singleton_append]

/-- Either all turns go well, or there is a first one that does not. -/
theorem Turn.all_or_first (turns : List Turn) : (∀ turn ∈ turns, turn.done.succeeds = true) ∨
    ∃ early turn late, turns = early ++ turn :: late ∧
      (∀ earlier ∈ early, earlier.done.succeeds = true) ∧ turn.done.succeeds = false := by
  cases found : turns.find? (!·.done.succeeds) with
  | none =>
    left
    simpa using found
  | some turn =>
    right
    obtain ⟨failed, early, late, split, fine⟩ := List.find?_eq_some_iff_append.mp found
    exact ⟨early, turn, late, split, by simpa using fine, by simpa using failed⟩

/-- The turns that were taken, as far as the events tell. -/
def Conclusion.started (turns : List Turn) (conclusion : Conclusion) : List Turn :=
  turns.take (tasksRun conclusion.events).length

theorem Conclusion.started_prefix (turns : List Turn) (conclusion : Conclusion) :
    conclusion.started turns <+: turns := List.take_prefix ..

/-! ## Command lines -/

/-- The script that is given in words, if there is one. -/
def scriptsInWords (options : Options) : List String := options.command.toList.filter (!·.isEmpty)

theorem scriptTasks_eq (options : Options) : scriptTasks options =
    (scriptsInWords options).map (fun script => (.words script, 1)) ++
      options.scripts.zipIdx.map fun (path, index) => (.file path, index + 1) := by
  unfold scriptTasks scriptsInWords
  congr 1
  cases options.command with
  | none => rfl
  | some script => by_cases empty : script.isEmpty = true <;> simp [empty]

theorem tasks_ne_input (options : Options) : ∀ entry ∈ scriptTasks options, entry.1 ≠ .input := by
  rw [scriptTasks_eq]
  intro entry member
  rcases List.mem_append.mp member with inWords | inFile
  · obtain ⟨script, _, rfl⟩ := List.mem_map.mp inWords
    nofun
  · obtain ⟨⟨path, index⟩, _, rfl⟩ := List.mem_map.mp inFile
    nofun

/-- What a command line does depends on what its own tasks do, and on nothing else. -/
theorem performAll_congr (channels : Channels) {perform other : Machine → Task → Performance}
    {tasks : List (Task × Nat)}
    (same : ∀ entry ∈ tasks, ∀ machine, perform machine entry.1 = other machine entry.1)
    (machine : Machine) :
    performAll perform channels tasks machine = performAll other channels tasks machine := by
  induction tasks generalizing machine with
  | nil => rfl
  | cons first rest ih =>
    obtain ⟨task, code⟩ := first
    rw [List.forall_mem_cons] at same
    have begun := performAll_cons perform channels task code rest machine
    have begunOther := performAll_cons other channels task code rest machine
    rw [begun, begunOther, same.1 machine, ih same.2]

/-- Standard input has no part in the scripts of a command line. -/
theorem performAll_scripts (channels : Channels) (options : Options) (settings : Settings)
    (input : List UInt8) (machine : Machine) :
    performAll (perform settings input) channels (scriptTasks options) machine =
      performAll (perform settings []) channels (scriptTasks options) machine := by
  refine performAll_congr channels (fun entry member machine => ?_) machine
  have script := tasks_ne_input options entry member
  cases task : entry.1 with
  | input => exact absurd task script
  | words | file => rfl

/-- How many turns were taken, and how they ended. -/
theorem Conclusion.TakesTurns.cases {channels : Channels} {turns : List Turn} {machine : Machine}
    {conclusion : Conclusion} (taken : conclusion.TakesTurns channels turns machine) :
    tasksRun conclusion.events = (conclusion.started turns).map Turn.task ∧
      ((∀ turn ∈ turns, turn.done.succeeds = true) ∧ conclusion.started turns = turns ∧
          conclusion.result = .ok 0 ∨
        ∃ early turn late, turns = early ++ turn :: late ∧
          (∀ earlier ∈ early, earlier.done.succeeds = true) ∧ turn.done.succeeds = false ∧
          conclusion.started turns = early ++ [turn] ∧ conclusion.result = turn.ending) := by
  rcases Turn.all_or_first turns with fine | ⟨early, turn, late, split, fine, failed⟩
  · have tasks : tasksRun conclusion.events = turns.map Turn.task := by
      rw [taken.succeeds fine, tasksRun_flatMap]
    have started : conclusion.started turns = turns := by simp [started, tasks]
    refine ⟨by rw [tasks, started], .inl ⟨fine, started, ?_⟩⟩
    rw [taken.succeeds fine]
  · have ended := taken.fails early turn late split fine failed
    have tasks : tasksRun conclusion.events = (early ++ [turn]).map Turn.task := by
      rw [ended, tasksRun_flatMap]
    have front : turns = (early ++ [turn]) ++ late := by rw [split, List.append_cons]
    have started : conclusion.started turns = early ++ [turn] := by
      rw [started, tasks, front, List.length_map, List.take_left]
    refine ⟨by rw [tasks, started], .inr ⟨early, turn, late, split, fine, failed, started, ?_⟩⟩
    rw [ended]

/-- A turn that comes to a report ends the command line with its own code. -/
theorem Turn.ending_of_report {turn : Turn} {report : Report}
    (reported : turn.done.result = .ok report) : turn.ending = .ok turn.code := by
  rw [ending, reported]
  rfl

variable {options : Options} {machine : Machine} {settings : Settings}

theorem scriptTasks_eq_nil (options : Options) :
    scriptTasks options = [] ↔ scriptsInWords options = [] ∧ options.scripts = [] := by
  rw [scriptTasks_eq, List.append_eq_nil_iff, List.map_eq_nil_iff, List.map_eq_nil_iff,
    List.zipIdx_eq_nil_iff]

theorem scriptTasks_ne_nil (given : scriptsInWords options ≠ [] ∨ options.scripts ≠ []) :
    scriptTasks options ≠ [] := by
  rw [ne_eq, scriptTasks_eq_nil]
  rintro ⟨words, files⟩
  rcases given with inWords | inFiles
  · exact inWords words
  · exact inFiles files

theorem tasks_of_scripts (given : scriptsInWords options ≠ [] ∨ options.scripts ≠ []) :
    tasks options = scriptTasks options := by
  unfold tasks
  cases known : scriptTasks options with
  | nil => exact absurd known (scriptTasks_ne_nil given)
  | cons => rfl

/-- Off a dialogue, a command line does its tasks. -/
theorem carryOut_tasks (loaded : Settings.load machine options.settings = .ok settings)
    (scripted : options.isInteractive = false ∨ scriptsInWords options ≠ [] ∨ options.scripts ≠ [])
    (isTerminal : Bool) (input : List UInt8) :
    carryOut options machine isTerminal input =
      performAll (perform settings input) (channels options settings) (tasks options) machine := by
  have noDialogue : (options.isInteractive && (scriptTasks options).isEmpty) = false := by
    rcases scripted with alone | given
    · rw [alone, Bool.false_and]
    · rw [List.isEmpty_eq_false_iff.mpr (scriptTasks_ne_nil given), Bool.and_false]
  simp only [carryOut, loaded, noDialogue]
  rfl

/-! ## A machine with one script -/

/-- A machine that has just one file, an empty script. -/
def lone : Machine where
  store := ⟨⟨[(["ok.gs"], .file [] false)]⟩, some []⟩
  environ := .empty
  user := 0
  platform := { Platform.empty with
    users := ⟨fun _ => none, some "/root", by simp⟩ }

/-- The home directory of its user is missing, and the settings in it. -/
theorem load_lone : Settings.load lone none = .ok .default := by
  have names : Files.pathNames "/root/.gscript.yaml" = ["root", ".gscript.yaml"] := rfl
  have lost : Files.walk lone.store.tree true Files.maxLinks [] ["root", ".gscript.yaml"] =
      .error .noEntry := by
    have empty : lone.store.tree.find? ([] ++ ["root"]) = none := rfl
    rw [Files.walk, if_neg (by decide), if_neg (by decide), if_neg (by decide)]
    simp only [empty]
    rfl
  have resolved : lone.store.resolve true "/root/.gscript.yaml" = .error .noEntry := by
    rw [Files.Store.resolve, if_neg (by decide), if_neg (by decide), if_pos (by decide +kernel),
      names, lost]
  have missing : lone.holds "/root/.gscript.yaml" = .ok false := by
    rw [Machine.holds, Files.Store.stat, Files.Store.locate, resolved, if_neg (by decide)]
    rfl
  have located : lone.locate homeSettings = .ok "/root/.gscript.yaml" := rfl
  have file : Settings.file? lone none = .ok none := by
    have unset : lone.environ.find? settingsVariable = none := rfl
    simp [Settings.file?, unset, located, missing, bind, Except.bind, pure, Except.pure]
  rw [Settings.load, file]
  rfl

theorem readFile_lone : lone.store.readFile "ok.gs" = .ok [] :=
  Files.Store.readFile_of_resolve
    (@Files.Store.resolve_single lone.store true "ok.gs" "ok.gs" [] (some (.file [] false))
      (by decide) rfl rfl (by decide) rfl (by simp)) rfl

/-- The empty script leaves the machine as it is. -/
theorem runFile_lone : Settings.default.runFile lone "ok.gs" =
    ⟨lone, [runNote .info "Running script: ok.gs"], .ok ⟨.empty, "", none⟩⟩ := by
  have naming : Engine.standard.extendNamed Settings.default.naming =
      .ok (Engine.standard.extend .short) := rfl
  have created : Settings.default.state lone = .ok (.start lone "/" .empty) :=
    State.create_of_directory rfl rfl lone.store.isDirectory_root rfl
  have source : Source.ofBytes [] = .ofLines [] := rfl
  rw [Settings.runFile, if_neg (by decide), readFile_lone]
  simp only [Settings.runScript, naming, created, source]
  rfl

theorem runFile_absent : Settings.default.runFile lone "no.gs" =
    ⟨lone, [], .ok (.unstarted (.unopened "no.gs" Files.Refusal.noEntry.reason))⟩ := by
  have resolved : lone.store.resolve true "no.gs" = .ok ⟨["no.gs"], none⟩ :=
    @Files.Store.resolve_single lone.store true "no.gs" "no.gs" [] none (by decide) rfl rfl
      (by decide) rfl (by simp)
  rw [Settings.runFile, if_neg (by decide), Files.Store.readFile_of_resolve_none resolved rfl]

/-- What each of these two scripts makes does not depend on the ones before it. -/
theorem turns_lone (paths : List String) (known : ∀ path ∈ paths, path = "ok.gs" ∨ path = "no.gs")
    (first : Nat) : turns (perform .default [])
      ((paths.zipIdx first).map fun (path, index) => (.file path, index + 1)) lone =
        (paths.zipIdx first).map fun (path, index) =>
          ⟨.file path, index + 1, Settings.default.runFile lone path⟩ := by
  induction paths generalizing first with
  | nil => rfl
  | cons path rest ih =>
    rw [List.forall_mem_cons] at known
    have left : (Settings.default.runFile lone path).machine = lone := by
      rcases known.1 with rfl | rfl
      · rw [runFile_lone]
      · rw [runFile_absent]
    rw [List.zipIdx_cons, List.map_cons, List.map_cons, turns]
    simp only [perform, left, ih known.2]

theorem succeeds_lone : (Settings.default.runFile lone "ok.gs").succeeds = true := by
  rw [runFile_lone]
  rfl

theorem succeeds_absent : (Settings.default.runFile lone "no.gs").succeeds = false := by
  rw [runFile_absent]
  rfl

/-- The turns of a command line that names the script a number of times, then one that is missing,
and then any of the two. -/
theorem turns_missing (count : Nat) (rest : List String)
    (known : ∀ path ∈ rest, path = "ok.gs" ∨ path = "no.gs") :
    let options := { Options.empty with scripts := List.replicate count "ok.gs" ++ "no.gs" :: rest }
    ∃ early late, turns (perform .default []) (scriptTasks options) lone =
        early ++ ⟨.file "no.gs", count + 1, Settings.default.runFile lone "no.gs"⟩ :: late ∧
      (∀ earlier ∈ early, earlier.done.succeeds = true) ∧
      early.map Turn.task = List.replicate count (.file "ok.gs") := by
  intro options
  have both : ∀ path ∈ options.scripts, path = "ok.gs" ∨ path = "no.gs" := by
    intro path member
    rcases List.mem_append.mp member with first | second
    · exact .inl (List.eq_of_mem_replicate first)
    · rcases List.mem_cons.mp second with rfl | later
      · exact .inr rfl
      · exact known path later
  have words : scriptsInWords options = [] := rfl
  rw [scriptTasks_eq, words, List.map_nil, List.nil_append, turns_lone options.scripts both 0]
  rw [List.zipIdx_append, List.zipIdx_cons, List.map_append, List.map_cons, List.length_replicate,
    Nat.zero_add]
  refine ⟨_, _, rfl, ?_, ?_⟩
  · intro earlier member
    obtain ⟨⟨path, index⟩, entry, rfl⟩ := List.mem_map.mp member
    obtain rfl : path = "ok.gs" := List.eq_of_mem_replicate (List.fst_mem_of_mem_zipIdx entry)
    exact succeeds_lone
  · calc _ = ((List.replicate count "ok.gs").zipIdx.map Prod.fst).map Task.file := by
          rw [List.map_map, List.map_map]
          rfl
      _ = List.replicate count (.file "ok.gs") := by rw [List.zipIdx_map_fst, List.map_replicate]

/-! ## The order of the runs -/

/-- The scripts of a command line are run in turns: first the one in words, then the files, up to
the first that fails. The exit code is zero if none does, one for the script in words, and for a
file its place among the files. Standard input is run only if there are no scripts, as one script or
as a dialogue. -/
theorem carryOut_turns (loaded : Settings.load machine options.settings = .ok settings)
    (isTerminal : Bool) (input : List UInt8) :
    let conclusion := carryOut options machine isTerminal input
    let asked := channels options settings
    (∀ perform tasks machine, (performAll perform asked tasks machine).TakesTurns asked
      (turns perform tasks machine) machine) ∧
    (scriptsInWords options ≠ [] ∨ options.scripts ≠ [] →
      let scripts := turns (perform settings []) (scriptTasks options) machine
      let started := conclusion.started scripts
      scripts.map (fun turn => (turn.task, turn.code)) =
          (scriptsInWords options).map (fun script => (.words script, 1)) ++
            options.scripts.zipIdx.map (fun (path, index) => (.file path, index + 1)) ∧
        conclusion.TakesTurns asked scripts machine ∧
        tasksRun conclusion.events = started.map Turn.task ∧
        (∀ early turn report, started = early ++ [turn] → turn.done.result = .ok report →
          conclusion.result = .ok (if report.success then 0 else turn.code)) ∧
        ∀ isInteractive isTerminal input,
          carryOut { options with isInteractive } machine isTerminal input = conclusion) ∧
    (scriptsInWords options = [] ∧ options.scripts = [] →
      conclusion = if options.isInteractive then hold settings asked machine isTerminal input
        else performAll (perform settings input) asked [(.input, 1)] machine) := by
  intro conclusion asked
  refine ⟨fun perform tasks machine => performAll_turns perform asked tasks machine, ?_, ?_⟩
  · intro given scripts started
    have performed (isInteractive isTerminal : Bool) (input : List UInt8) :
        carryOut { options with isInteractive } machine isTerminal input =
          performAll (perform settings []) asked (scriptTasks options) machine := by
      have whole := @carryOut_tasks { options with isInteractive } machine settings loaded
        (.inr given) isTerminal input
      have same : tasks { options with isInteractive } = scriptTasks options :=
        tasks_of_scripts given
      rw [whole, same]
      exact performAll_scripts asked options settings input machine
    have ended : conclusion =
        performAll (perform settings []) asked (scriptTasks options) machine :=
      performed options.isInteractive isTerminal input
    have taken : conclusion.TakesTurns asked scripts machine := by
      rw [ended]
      exact performAll_turns ..
    obtain ⟨tasks, ends⟩ := taken.cases
    refine ⟨?_, taken, tasks, ?_, ?_⟩
    · rw [map_turns, scriptTasks_eq]
    · intro early turn report last reported
      have success := Performance.succeeds_of_report reported
      rcases ends with ⟨fine, all, result⟩ | ⟨early', turn', late, _, _, failed, upTo, result⟩
      · have member : turn ∈ scripts := by
          rw [all.symm.trans last]
          exact List.mem_concat_self
        rw [result, ← success, if_pos (fine turn member)]
      · obtain ⟨_, same⟩ := List.append_inj' (last.symm.trans upTo) rfl
        obtain rfl : turn = turn' := List.singleton_inj.mp same
        rw [result, turn.ending_of_report reported, ← success, failed]
        rfl
    · intro isInteractive isTerminal input
      rw [performed, ended]
  · rintro ⟨words, files⟩
    have none : scriptTasks options = [] := by rw [scriptTasks_eq, words, files]; rfl
    simp only [conclusion, carryOut, loaded, tasks, none, List.isEmpty_nil, Bool.and_true]
    rfl

/-- Three files, of which the second is missing: the third is not run, the exit code is two, and
that a dialogue is asked for does not matter. -/
theorem carryOut_turns_missing :
    let options :=
      { Options.empty with scripts := ["ok.gs", "no.gs", "ok.gs"], isInteractive := true }
    let conclusion := carryOut options lone false []
    Settings.load lone options.settings = .ok .default ∧ conclusion.result = .ok 2 ∧
      tasksRun conclusion.events = [.file "ok.gs", .file "no.gs"] := by
  intro options conclusion
  obtain ⟨_, scripts, _⟩ := @carryOut_turns options lone .default load_lone false []
  obtain ⟨_, taken, _⟩ := scripts (.inr (by simp [options]))
  obtain ⟨early, late, split, fine, first⟩ := turns_missing 1 ["ok.gs"] (by simp)
  have ended : conclusion = _ := taken.fails early _ late split fine succeeds_absent
  refine ⟨load_lone, ?_, ?_⟩
  · rw [ended]
    simp [Turn.ending, runFile_absent, Except.map]
  · rw [ended, tasksRun_flatMap, List.map_append, first]
    rfl

/-! ## The status -/

/-- The caller sees success exactly if the exit code is a multiple of 256. -/
theorem Conclusion.status_eq_zero (conclusion : Conclusion) :
    conclusion.status = 0 ↔ ∃ code, conclusion.result = .ok code ∧ 256 ∣ code := by
  unfold status
  cases conclusion.result with
  | error fault => simp
  | ok code =>
    have low : CommandLine.status code = 0 ↔ 256 ∣ code := by
      rw [CommandLine.status, ← UInt8.toNat_inj, UInt8.toNat_ofNat']
      simp [Nat.dvd_iff_mod_eq_zero]
    simpa using low

/-- Turns come to status zero exactly if all that were started went well, or if the code of the one
that did not is a multiple of 256. -/
theorem Conclusion.TakesTurns.status_eq_zero {channels : Channels} {turns : List Turn}
    {conclusion : Conclusion} (taken : conclusion.TakesTurns channels turns machine) :
    conclusion.status = 0 ↔ (∀ turn ∈ conclusion.started turns, turn.done.succeeds = true) ∨
      ∃ early turn late report, turns = early ++ turn :: late ∧
        conclusion.started turns = early ++ [turn] ∧ turn.done.result = .ok report ∧
        report.success = false ∧ 256 ∣ turn.code := by
  rw [conclusion.status_eq_zero]
  obtain ⟨_, ⟨fine, all, result⟩ | ⟨early, turn, late, split, fine, failed, upTo, result⟩⟩ :=
    taken.cases
  · exact iff_of_true ⟨0, result, Nat.dvd_zero 256⟩ (.inl (by rwa [all]))
  constructor
  · rintro ⟨code, ended, divides⟩
    right
    rw [result, Turn.ending] at ended
    cases reported : turn.done.result with
    | error fault => simp [reported, Except.map] at ended
    | ok report =>
      obtain rfl : turn.code = code := by simpa [reported, Except.map] using ended
      have success := Performance.succeeds_of_report reported
      exact ⟨early, turn, late, report, split, upTo, reported, by rw [← success, failed], divides⟩
  · rintro (fine | ⟨early', turn', late', report, _, upTo', reported, _, divides⟩)
    · have failing : turn ∈ conclusion.started turns := by simp [upTo]
      simp [fine turn failing] at failed
    · obtain ⟨_, same⟩ := List.append_inj' (upTo.symm.trans upTo') rfl
      obtain rfl : turn = turn' := List.singleton_inj.mp same
      exact ⟨turn.code, result.trans (turn.ending_of_report reported), divides⟩

/-- A dialogue comes to status zero exactly if it comes to its end. -/
theorem hold_status (settings : Settings) (channels : Channels) (machine : Machine)
    (isTerminal : Bool) (input : List UInt8) :
    (hold settings channels machine isTerminal input).status = 0 ↔
      ∃ log, (settings.converse machine isTerminal (.ofBytes input)).result = .ok log := by
  cases ended : (settings.converse machine isTerminal (.ofBytes input)).result with
  | ok log => simp [hold, ended, Conclusion.status, status]
  | error fault =>
    cases script : fault.isScript with
    | true => simp [hold, ended, script, Conclusion.status, status]
    | false => simp [hold, ended, script, Conclusion.status]

/-- The code of a turn is one, or it tells which of the files is run. -/
theorem code_of_turn {perform : Machine → Task → Performance} {early late : List Turn} {turn : Turn}
    (split : turns perform (tasks options) machine = early ++ turn :: late) :
    turn.code = 1 ∧ (∀ path, turn.task ≠ .file path) ∨
      ∃ number path, early.length = (scriptsInWords options).length + number ∧
        options.scripts[number]? = some path ∧ turn.task = .file path ∧ turn.code = number + 1 := by
  have entry : (tasks options)[early.length]? = some (turn.task, turn.code) := by
    rw [← map_turns perform (tasks options) machine, split]
    simp
  by_cases given : scriptsInWords options ≠ [] ∨ options.scripts ≠ []
  · rw [tasks_of_scripts given, scriptTasks_eq] at entry
    by_cases inWords : early.length < (scriptsInWords options).length
    · left
      rw [List.getElem?_append_left (by simpa using inWords), List.getElem?_map] at entry
      obtain ⟨script, _, same⟩ := Option.map_eq_some_iff.mp entry
      obtain ⟨task, code⟩ := Prod.mk.inj same
      exact ⟨code.symm, by simp [← task]⟩
    · right
      obtain ⟨number, place⟩ := Nat.exists_eq_add_of_le (Nat.le_of_not_lt inWords)
      rw [place, List.getElem?_append_right (by simp), List.length_map, Nat.add_sub_cancel_left,
        List.getElem?_map, List.getElem?_zipIdx] at entry
      rw [Option.map_map] at entry
      obtain ⟨path, found, same⟩ := Option.map_eq_some_iff.mp entry
      obtain ⟨task, code⟩ := Prod.mk.inj same
      exact ⟨number, path, place, found, task.symm, by simp [← code]⟩
  · left
    have none : scriptTasks options = [] :=
      (scriptTasks_eq_nil options).mpr (by simpa [not_or] using given)
    rw [tasks, none] at entry
    obtain ⟨_, same⟩ := List.getElem?_eq_some_iff.mp entry
    obtain ⟨task, code⟩ := Prod.mk.inj (List.mem_singleton.mp (same ▸ List.getElem_mem _))
    exact ⟨code, by simp [task]⟩

/-- The caller sees success exactly if all scripts that were started went well, or if the first that
did not is a file whose place among the files is a multiple of 256. What is seen of a dialogue is
whether it came to its end. -/
theorem carryOut_status (loaded : Settings.load machine options.settings = .ok settings)
    (isTerminal : Bool) (input : List UInt8) :
    let conclusion := carryOut options machine isTerminal input
    let started := conclusion.started (turns (perform settings input) (tasks options) machine)
    (options.isInteractive = false ∨ scriptsInWords options ≠ [] ∨ options.scripts ≠ [] →
      tasksRun conclusion.events = started.map Turn.task ∧
      (conclusion.status = 0 ↔ (∀ turn ∈ started, turn.done.succeeds = true) ∨
        ∃ early turn report number path, started = early ++ [turn] ∧
          turn.done.result = .ok report ∧ report.success = false ∧
          early.length = (scriptsInWords options).length + number ∧
          options.scripts[number]? = some path ∧ turn.task = .file path ∧ 256 ∣ number + 1)) ∧
    (options.isInteractive = true ∧ scriptsInWords options = [] ∧ options.scripts = [] →
      (conclusion.status = 0 ↔
        ∃ log, (settings.converse machine isTerminal (.ofBytes input)).result = .ok log)) := by
  intro conclusion started
  constructor
  · intro scripted
    have ended := carryOut_tasks loaded scripted isTerminal input
    have taken : conclusion.TakesTurns (channels options settings)
        (turns (perform settings input) (tasks options) machine) machine := by
      simp only [conclusion]
      rw [ended]
      exact performAll_turns ..
    obtain ⟨same, ends⟩ := taken.cases
    refine ⟨same, ?_⟩
    rw [taken.status_eq_zero]
    refine or_congr_right ?_
    constructor
    · rintro ⟨early, turn, late, report, split, upTo, reported, failed, divides⟩
      rcases code_of_turn split with ⟨one, _⟩ | ⟨number, path, place, found, task, code⟩
      · omega
      · exact ⟨early, turn, report, number, path, upTo, reported, failed, place, found, task,
          code ▸ divides⟩
    · rintro ⟨early, turn, report, number, path, upTo, reported, failed, place, _, task, divides⟩
      obtain ⟨late, whole⟩ := conclusion.started_prefix
        (turns (perform settings input) (tasks options) machine)
      have split := (congrArg (· ++ late) upTo).symm.trans whole
      rw [List.append_assoc, List.singleton_append] at split
      refine ⟨early, turn, late, report, split.symm, upTo, reported, failed, ?_⟩
      rcases code_of_turn split.symm with ⟨_, noFile⟩ | ⟨other, _, place', _, _, code⟩
      · exact absurd task (noFile path)
      · obtain rfl : other = number := by omega
        rwa [code]
  · rintro ⟨interactive, words, files⟩
    have none : scriptTasks options = [] := (scriptTasks_eq_nil options).mpr ⟨words, files⟩
    have held : conclusion =
        hold settings (channels options settings) machine isTerminal input := by
      simp only [conclusion, carryOut, loaded, interactive, none]
      rfl
    rw [held, hold_status]

/-- If files that go well stand before one that is missing, its place is the exit code, and not all
that were started went well. -/
theorem carryOut_missing (count : Nat) :
    let options := { Options.empty with scripts := List.replicate count "ok.gs" ++ ["no.gs"] }
    let conclusion := carryOut options lone false []
    conclusion.result = .ok (count + 1) ∧
      ∃ turn ∈ conclusion.started (turns (perform .default []) (tasks options) lone),
        turn.done.succeeds = false := by
  intro options conclusion
  have given : options.scripts ≠ [] := by simp [options]
  have ended := @carryOut_tasks options lone .default load_lone (.inr (.inr given)) false []
  obtain ⟨early, late, split, fine, _⟩ := turns_missing count [] (by simp)
  rw [← tasks_of_scripts (.inr given)] at split
  have taken := performAll_turns (perform .default []) (channels options .default)
    (tasks options) lone
  rw [← ended] at taken
  have failed := taken.fails early _ late split fine succeeds_absent
  constructor
  · simp [conclusion, failed, Turn.ending, runFile_absent, Except.map]
  · obtain ⟨_, ⟨all, _⟩ | ⟨_, turn, _, _, _, failing, upTo, _⟩⟩ := taken.cases
    · have missing := all _ (split ▸ List.mem_append_right early List.mem_cons_self)
      exact absurd missing (by simp [succeeds_absent])
    · exact ⟨turn, by simp [conclusion, upTo], failing⟩

/-- Two files of which the second is missing do not come to status zero. -/
theorem carryOut_status_missing :
    let options := { Options.empty with scripts := ["ok.gs", "no.gs"] }
    Settings.load lone options.settings = .ok .default ∧
      (carryOut options lone false []).status ≠ 0 := by
  intro options
  refine ⟨load_lone, fun zero => ?_⟩
  have given : options.scripts ≠ [] := by simp [options]
  obtain ⟨scripted, _⟩ := @carryOut_status options lone .default load_lone false []
  obtain ⟨_, seen⟩ := scripted (.inr (.inr given))
  rcases seen.mp zero with fine | ⟨_, _, _, number, path, _, _, _, _, found, _, divides⟩
  · obtain ⟨_, turn, started, failed⟩ := carryOut_missing 1
    exact absurd (fine turn started) (by simp [failed])
  · have below := (List.getElem?_eq_some_iff.mp found).1
    simp [options] at below
    omega

/-- Behind 255 files that go well, the one that does not comes to the exit code 256, which the
caller sees as zero. -/
theorem carryOut_status_wraps :
    let options := { Options.empty with scripts := List.replicate 255 "ok.gs" ++ ["no.gs"] }
    let conclusion := carryOut options lone false []
    conclusion.result = .ok 256 ∧ conclusion.status = 0 ∧
      ∃ turn ∈ conclusion.started (turns (perform .default []) (tasks options) lone),
        turn.done.succeeds = false := by
  intro options conclusion
  obtain ⟨result, failing⟩ := carryOut_missing 255
  exact ⟨result, conclusion.status_eq_zero.mpr ⟨256, result, Nat.dvd_refl 256⟩, failing⟩

end CommandLine

end LineScript
