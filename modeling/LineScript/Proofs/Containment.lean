import LineScript.Proofs.Appending
import LineScript.Proofs.Clean
import LineScript.Proofs.Escapes

/-!
# What commands raise
Whatever goes wrong in one of the commands that scripts know is a fault that is caught, but for two
kinds: the fault that a NUL in a path or in what a program is given makes, and the faults of
patterns that are more than defects (`contained_extend`). Where no text holds a NUL that comes near
a command, only the second kind is left.
-/
namespace LineScript

/-! ## Faults -/

/-- What may go wrong in a command: what is caught, what a NUL makes, and what it spills. -/
inductive Fault.Allowed (loose : Prop) (spills : Fault → Prop) : Fault → Prop where
  | caught {fault : Fault} (caught : fault.isCaught = true) : Allowed loose spills fault
  | nul (about : loose) : Allowed loose spills (.value .embeddedNul)
  | spilled {fault : Fault} (spilled : spills fault) : Allowed loose spills fault

/-- What may go wrong when a program is started. -/
def Fault.FromProgram (loose : Prop) : Fault → Prop
  | .system _ => True
  | .value .embeddedNul => loose
  | _ => False

/-- What may go wrong when a handle is awaited. -/
def Fault.FromHandle (loose : Prop) : Fault → Prop
  | .command _ _ => True
  | .value .embeddedNul => loose
  | _ => False

/-- This comes to something good or to an allowed fault. -/
def Ends {α : Type} (allowed : Fault → Prop) (good : α → Prop) : Except Fault α → Prop
  | .ok value => good value
  | .error fault => allowed fault

section
variable {α β : Type} {allowed : Fault → Prop} {good : α → Prop} {better : β → Prop}

theorem Ends.bind {result : Except Fault α} {next : α → Except Fault β}
    (first : Ends allowed good result)
    (later : ∀ value, good value → Ends allowed better (next value)) :
    Ends allowed better (result >>= next) := by
  cases result with
  | error fault => exact first
  | ok value => exact later value first

theorem ends_mapM {γ : Type} {items : List γ} {f : γ → Except Fault α}
    (each : ∀ item ∈ items, Ends allowed good (f item)) :
    Ends allowed (fun _ => True) (items.mapM f) := by
  induction items with
  | nil => trivial
  | cons item rest ih =>
    rw [List.mapM_cons]
    have later := ih fun other member => each other (List.mem_cons_of_mem _ member)
    exact (each item (by simp)).bind fun _ _ => later.bind fun _ _ => trivial

theorem ends_forM {γ : Type} {items : List γ} {f : γ → Except Fault PUnit}
    (each : ∀ item ∈ items, Ends allowed (fun _ => True) (f item)) :
    Ends allowed (fun _ => True) (items.forM f) := by
  induction items with
  | nil => trivial
  | cons item rest ih =>
    have later := ih fun other member => each other (List.mem_cons_of_mem _ member)
    exact (each item (by simp)).bind fun _ _ => later

end

variable {loose : Prop} {names : String → Option Nat} {spills : Fault → Prop}

/-! ## Scenes -/

/-- A job whose texts hold no NUL, unless NULs are about. -/
def Job.Clean (loose : Prop) : Job → Prop
  | .waiting program arguments =>
    LineScript.Clean loose program.toList ∧ ∀ arg ∈ arguments, LineScript.Clean loose arg.toList
  | .finished result => Ends (Fault.FromProgram loose) (fun _ => True) result

/-- A scene none of whose texts that paths and programs are made of holds a NUL, unless NULs are
about, and where characters have these names. -/
structure Scene.Clean (loose : Prop) (names : String → Option Nat) (scene : Scene) : Prop where
  pwd : LineScript.Clean loose scene.pwd.toList
  environ : scene.machine.environ.Clean loose
  env : scene.env.Clean loose
  jobs : ∀ job ∈ scene.jobs, job.Clean loose
  names : scene.machine.platform.character = names

theorem ends_expandHome {machine : Machine} (environ : machine.environ.Clean loose) {path : String}
    (clean : Clean loose path.toList) : Ends (Fault.Allowed loose spills)
      (fun expanded => Clean loose expanded.toList) (machine.expandHome path) := by
  have homes (name home : List Char) (known : machine.homeOf name = some home) :
      Clean loose home := by
    unfold Machine.homeOf at known
    obtain ⟨text, found, rfl⟩ := Option.map_eq_some_iff.mp known
    have plain := machine.platform.users.plain text
    split at found
    · rcases Option.or_eq_some_iff.mp found with chosen | ⟨_, own⟩
      · exact (environ _ (Table.mem_of_find? chosen)).2
      · exact fun member => absurd member (plain (.inl own))
    · exact fun member => absurd member (plain (.inr ⟨_, found⟩))
  cases found : machine.expandHome path with
  | error fault =>
    obtain ⟨rfl, nul⟩ := Machine.expandHome_error found
    exact .nul (clean.of_hasNul nul)
  | ok expanded =>
    unfold Machine.expandHome at found
    split at found
    · cases found
      exact clean
    · split at found
      · cases found
      · cases found
        have kept := Path.clean_expandHome homes clean
        rwa [Ends, String.toList_ofList]

theorem Scene.Clean.resolve {scene : Scene} (clean : scene.Clean loose names) {path : String}
    (plain : LineScript.Clean loose path.toList) : Ends (Fault.Allowed loose spills)
      (fun resolved => LineScript.Clean loose resolved.toList) (scene.resolve path) :=
  (ends_expandHome clean.environ plain).bind fun _ expanded =>
    Path.clean_normalize (Path.clean_join clean.pwd expanded)

/-- Starting a program is refused by the system, or by a NUL in what the program is given. -/
theorem Scene.Clean.startJob {scene : Scene} (clean : scene.Clean loose names) (store : Files.Store)
    {job : Job} (own : job.Clean loose) : (scene.startJob store job).2.Clean loose := by
  cases job with
  | finished result => exact own
  | waiting program arguments =>
    obtain ⟨named, given⟩ := own
    have texts : ∀ text ∈ program :: scene.pwd :: arguments ++ scene.env.toEntries,
        LineScript.Clean loose text.toList := by
      simp only [List.cons_append, List.forall_mem_cons, List.forall_mem_append]
      exact ⟨named, clean.pwd, given, Environment.clean_toEntries clean.env⟩
    simp only [Scene.startJob, Process.start]
    by_cases found : (program :: scene.pwd :: arguments ++ scene.env.toEntries).any
        Files.Store.hasNul = true
    · obtain ⟨text, member, nul⟩ := List.any_eq_true.mp found
      rw [if_pos found]
      exact (texts text member).of_hasNul nul
    · rw [if_neg found]
      cases scene.machine.platform.run store ⟨program, arguments, scene.pwd, scene.env⟩ with
      | error fault => trivial
      | ok result => trivial

theorem Scene.Clean.pause {scene : Scene} (clean : scene.Clean loose names) :
    scene.pause.Clean loose names := by
  have each (store : Files.Store) (jobs : List Job) (own : ∀ job ∈ jobs, job.Clean loose) :
      ∀ job ∈ (scene.startAll store jobs).2, job.Clean loose := by
    induction jobs generalizing store with
    | nil => exact own
    | cons job rest ih =>
      refine List.forall_mem_cons.mpr ⟨clean.startJob store (own job (by simp)), ?_⟩
      exact ih _ fun other member => own other (List.mem_cons_of_mem _ member)
  exact ⟨clean.pwd, clean.environ, clean.env, each _ _ clean.jobs, clean.names⟩

/-! ## Commands -/

/-- A handle that keeps the scene clean and ends in output, in a failure of its command, or in what
a NUL makes. A wait does where the handles do that it collects. -/
def Handle.Contained (loose : Prop) (names : String → Option Nat) : Handle → Prop
  | .task run => ∀ scene : Scene, scene.Clean loose names →
    (run scene).1.Clean loose names ∧ Ends (Fault.FromHandle loose) (fun _ => True) (run scene).2
  | .join => True

/-- A reply with a handle of this kind, or with an allowed fault. -/
def Reply.Contained (loose : Prop) (names : String → Option Nat) (spills : Fault → Prop) :
    Reply → Prop
  | .done => True
  | .handle held => held.Contained loose names
  | .fault raised => raised.Allowed loose spills

/-- A manual with conditions that can be told without a fault. -/
def Manual.Steady (manual : Manual) : Prop :=
  ∀ name condition, manual.conditions.find? name = some condition →
    condition.usage.takesSuffix = false → ∀ scene, ∃ holds, condition.holds scene "" = .ok holds

/-- A command that keeps the scene clean, leaves the background alone and replies with nothing but
handles of this kind and allowed faults. -/
structure Command.Contained (loose : Prop) (names : String → Option Nat)
    (spills : List String → Fault → Prop) (command : Command) : Prop where
  aloof : ∀ args state, (command.run args state).1.background = state.background
  runs : ∀ args (state : State), (∀ arg ∈ args, LineScript.Clean loose arg.toList) →
    state.Clean loose names → (∀ manual, state.manual = some manual → manual.Steady) →
      (command.run args state).1.Clean loose names ∧
        (command.run args state).2.Contained loose names (spills args)

namespace Builtin

theorem contained_known (output : Output) : (Handle.known output).Contained loose names :=
  fun _ clean => ⟨clean, trivial⟩

theorem contained_replyOf {result : Except Fault Reply}
    (ends : Ends (Fault.Allowed loose spills) (Reply.Contained loose names spills) result) :
    (replyOf result).Contained loose names spills := by
  cases result with
  | error fault => exact ends
  | ok reply => exact ends

/-! ### Commands that look -/

theorem contained_looking {spills : List String → Fault → Prop} (usage : CommandUsage)
    {look : List String → State → Except Fault Reply}
    (ends : ∀ args (state : State), (∀ arg ∈ args, LineScript.Clean loose arg.toList) →
      state.Clean loose names → (∀ manual, state.manual = some manual → manual.Steady) →
        Ends (Fault.Allowed loose (spills args)) (Reply.Contained loose names (spills args))
          (look args state)) : (looking usage look).Contained loose names spills where
  aloof _ _ := rfl
  runs args state given clean steady :=
    ⟨clean, contained_replyOf (ends args state given clean steady)⟩

theorem ends_readText {scene : Scene} (clean : scene.Clean loose names) {name : String}
    (plain : Clean loose name.toList) :
    Ends (Fault.Allowed loose spills) (fun _ => True) (readText scene name) := by
  refine (clean.resolve plain).bind fun path kept => ?_
  split
  · rename_i nul
    exact .nul (kept.of_hasNul nul)
  · split
    · trivial
    · exact .caught rfl

variable {args : List String} {state : State}

theorem ends_cat (given : ∀ arg ∈ args, Clean loose arg.toList) (clean : state.Clean loose names) :
    Ends (Fault.Allowed loose spills) (Reply.Contained loose names spills) (cat args state) := by
  unfold cat
  split
  · exact .caught rfl
  · have read : Ends (Fault.Allowed loose spills) (fun _ => True)
        (args.mapM (readText state.toScene)) :=
      ends_mapM fun name member => ends_readText clean (given name member)
    exact read.bind fun _ _ => contained_known _

theorem ends_pwd :
    Ends (Fault.Allowed loose spills) (Reply.Contained loose names spills) (pwd args state) := by
  unfold pwd
  split
  · exact contained_known _
  · exact .caught rfl

theorem takeDemands_suffix (demands : Demands) (args : List String) :
    (takeDemands demands args).2 <:+ args := by
  induction args generalizing demands with
  | nil => exact List.suffix_rfl
  | cons arg rest ih =>
    rw [takeDemands]
    split
    · exact (ih _).trans (List.suffix_cons _ _)
    · split
      · exact (ih _).trans (List.suffix_cons _ _)
      · exact List.suffix_rfl

theorem ends_exists (given : ∀ arg ∈ args, Clean loose arg.toList)
    (clean : state.Clean loose names) : Ends (Fault.Allowed loose spills)
      (Reply.Contained loose names spills) (exists? args state) := by
  have check (demands : Demands) (name : String) (plain : Clean loose name.toList) :
      Ends (Fault.Allowed loose spills) (fun _ => True) (checkFile state.toScene demands name) := by
    refine (clean.resolve plain).bind fun path _ => ?_
    simp only
    split
    · exact .caught rfl
    · split
      · exact .caught rfl
      · split
        · exact .caught rfl
        · trivial
  have suffix := takeDemands_suffix ⟨false, false⟩ args
  unfold exists?
  rcases taken : takeDemands ⟨false, false⟩ args with ⟨demands, names⟩
  rw [taken] at suffix
  simp only
  split
  · exact .caught rfl
  · have checked := ends_forM fun name member =>
      check demands name (given name (suffix.subset member))
    exact checked.bind fun _ _ => trivial

theorem fault_of_listNames {tell : String → Except Fault String} {names : List String}
    {fault : Fault} (ended : (listNames tell names).2 = some fault) :
    ∃ name, tell name = .error fault := by
  induction names with
  | nil => cases ended
  | cons name rest ih =>
    rw [listNames] at ended
    split at ended
    · rename_i told
      cases ended
      exact ⟨name, told⟩
    · exact ih ended

theorem ends_help (steady : ∀ manual, state.manual = some manual → manual.Steady) :
    Ends (Fault.Allowed loose spills) (Reply.Contained loose names spills) (help args state) := by
  unfold help
  split
  · exact .caught rfl
  · rename_i manual atHand
    have commands (names : List String) (verbose : Bool) {text : String} {fault : Fault}
        (ended : manual.listCommands verbose names = (text, some fault)) :
        fault.isCaught = true := by
      obtain ⟨name, told⟩ := fault_of_listNames (congrArg Prod.snd ended)
      split at told <;> cases told
      rfl
    have conditions {text : String} {fault : Fault} (ended :
        manual.listConditions (some state.toScene) [] = (text, some fault)) :
        fault.isCaught = true := by
      obtain ⟨name, told⟩ := fault_of_listNames (congrArg Prod.snd ended)
      split at told
      · rename_i condition found
        unfold Condition.text at told
        by_cases suffixed : condition.usage.takesSuffix = true
        · simp [suffixed, pure, Except.pure] at told
        · obtain ⟨holds, answered⟩ := steady manual atHand name condition found
            (by simpa using suffixed) state.toScene
          simp [suffixed, answered, bind, Except.bind, pure, Except.pure] at told
      · cases told
        rfl
    have helped : Ends (Fault.Allowed loose spills) (fun _ => True)
        (manual.help state.toScene (args.contains "-v") (args.filter (· != "-v"))) := by
      unfold Manual.help
      split
      · rename_i ended
        exact .caught (commands _ _ ended)
      · split
        · split
          · rename_i ended
            exact .caught (conditions ended)
          · trivial
        · trivial
    exact helped.bind fun _ _ => contained_known _

theorem ends_sleep :
    Ends (Fault.Allowed loose spills) (Reply.Contained loose names spills) (sleep args state) := by
  unfold sleep
  split
  · split
    · exact fun scene clean => ⟨clean.pause, trivial⟩
    · exact .caught rfl
  · exact .caught rfl

theorem ends_wait :
    Ends (Fault.Allowed loose spills) (Reply.Contained loose names spills) (wait args state) := by
  unfold wait
  split
  · trivial
  · exact .caught rfl

/-! ### Commands that search -/

/-- The problem with the pattern that a search is called with, if it is more than a defect. -/
def PatternProblem (names : String → Option Nat) (args : List String) (fault : Fault) : Prop :=
  ∃ count pattern rest problem, takeFlags none args = .ok (count, pattern :: rest) ∧
    Pattern.compile names pattern = .error problem ∧ fault = patternFault problem ∧
      fault.isCaught = false

private theorem eq_of_clashes {compiled : Except Pattern.Problem Pattern} (clashes :
    (match compiled with | .error .clashingFlags => true | _ => false) = true) :
    compiled = .error .clashingFlags := by
  split at clashes
  · rfl
  · cases clashes

/-- Flags that exclude each other are more than a defect. -/
theorem compile_clash :
    Pattern.compile Machine.empty.platform.character "(?a)(?u)x" = .error .clashingFlags :=
  eq_of_clashes (by decide +kernel)

theorem takeFlags_suffix {count said : Option Int} {args rest : List String}
    (taken : takeFlags count args = .ok (said, rest)) : rest <:+ args := by
  fun_induction takeFlags count args with
  | case1 => cases taken; exact List.suffix_rfl
  | case2 => cases taken; exact List.suffix_rfl
  | case3 count flag rest more leads said' read ih =>
    exact (ih taken).trans (List.suffix_cons _ _)
  | case4 => cases taken
  | case5 => cases taken; exact List.suffix_rfl

section
variable {machine : Machine} (here : machine.platform.character = names)
  (known : ∀ fault, PatternProblem names args fault → spills fault)
include here known

theorem ends_search {content : List String → Except Fault (String × String)}
    (found : ∀ rest, rest <:+ args →
      Ends (Fault.Allowed loose spills) (fun _ => True) (content rest)) :
    Ends (Fault.Allowed loose spills) (Reply.Contained loose names spills)
      (search machine content args) := by
  unfold search
  split
  · exact .caught rfl
  · exact .caught rfl
  · rename_i count pattern rest taken
    rw [here]
    split
    · rename_i problem compiled
      cases caught : (patternFault problem).isCaught with
      | true => exact .caught caught
      | false =>
        exact .spilled (known _ ⟨count, pattern, rest, problem, taken, compiled, rfl, caught⟩)
    · have behind := (List.suffix_cons pattern rest).trans (takeFlags_suffix taken)
      refine (found rest behind).bind fun (text, name) _ => ?_
      simp only
      split
      · trivial
      · exact .caught rfl

omit here in
theorem ends_grep (given : ∀ arg ∈ args, Clean loose arg.toList) (clean : state.Clean loose names) :
    Ends (Fault.Allowed loose spills) (Reply.Contained loose names spills) (grep args state) := by
  refine ends_search clean.names known fun rest behind => ?_
  split
  · rename_i name
    have read : Ends (Fault.Allowed loose spills) (fun _ => True)
        (readText state.toScene name) := ends_readText clean (given name (behind.subset (by simp)))
    exact read.bind fun _ _ => trivial
  · exact .caught rfl

theorem ends_searchLast (text name : String) :
    Ends (Fault.Allowed loose spills) (Reply.Contained loose names spills)
      (searchLast machine text name args) := by
  refine ends_search here known fun rest _ => ?_
  split
  · trivial
  · exact .caught rfl

end

/-! ### Commands that change the scene -/

theorem contained_changing {spills : List String → Fault → Prop} (usage : CommandUsage)
    {change : List String → Scene → Scene × Except Fault Reply}
    (ends : ∀ args (scene : Scene), (∀ arg ∈ args, LineScript.Clean loose arg.toList) →
      scene.Clean loose names → (change args scene).1.Clean loose names ∧
        Ends (Fault.Allowed loose (spills args)) (Reply.Contained loose names (spills args))
          (change args scene).2) : (changing usage change).Contained loose names spills where
  aloof _ _ := rfl
  runs args state given clean _ := by
    obtain ⟨kept, replied⟩ := ends args state.toScene given clean
    exact ⟨kept, contained_replyOf replied⟩

variable {scene : Scene}

theorem ends_changeDirectory (clean : scene.Clean loose names) {path : String}
    (plain : Clean loose path.toList) : Ends (Fault.Allowed loose spills)
      (fun after => after.Clean loose names) (scene.changeDirectory path) := by
  refine (clean.resolve plain).bind fun directory kept => ?_
  split
  · exact ⟨kept, clean.environ, Environment.clean_insert clean.env (by simp [Clean]) kept,
      clean.jobs, clean.names⟩
  · exact .caught rfl

theorem contained_cd {spills : List String → Fault → Prop} (usage : CommandUsage) :
    (changing usage cd).Contained loose names spills := by
  refine contained_changing usage fun args scene given clean => ?_
  unfold cd
  split
  · rename_i path
    have changed : Ends (Fault.Allowed loose (spills [path])) (fun after => after.Clean loose names)
        (scene.changeDirectory path) := ends_changeDirectory clean (given path (by simp))
    split
    · rename_i after moved
      rw [moved] at changed
      exact ⟨changed, trivial⟩
    · rename_i fault refused
      rw [refused] at changed
      exact ⟨clean, changed⟩
  · exact ⟨clean, .caught rfl⟩

theorem clean_envLines (lines : List String) (given : ∀ arg ∈ args, Clean loose arg.toList)
    (clean : scene.Clean loose names) : (envLines lines args scene).1.Clean loose names ∧
      Ends (Fault.Allowed loose spills) (fun _ => True) (envLines lines args scene).2 := by
  induction args generalizing lines scene with
  | nil => exact ⟨clean, trivial⟩
  | cons arg rest ih =>
    have later := fun other member => given other (List.mem_cons_of_mem arg member)
    obtain ⟨named, valued⟩ := Environment.clean_splitEntry (given arg (by simp))
    rw [envLines]
    split
    · rename_i name value entry
      rw [entry] at named valued
      split
      · rename_i after set
        refine ih _ later ?_
        unfold Scene.setVariable Environment.set at set
        split at set
        · rename_i env chosen
          split at chosen <;> cases chosen
          cases set
          exact ⟨clean.pwd, clean.environ,
            Environment.clean_insert clean.env named (valued value rfl), clean.jobs, clean.names⟩
        · cases set
      · rename_i fault refused
        refine ⟨clean, ?_⟩
        unfold Scene.setVariable at refused
        split at refused <;> cases refused
        exact .caught rfl
    · exact ih _ later clean

theorem contained_env {spills : List String → Fault → Prop} (usage : CommandUsage) :
    (changing usage env).Contained loose names spills := by
  refine contained_changing usage fun args scene given clean => ?_
  obtain ⟨kept, ends⟩ := @clean_envLines loose names (spills args) args scene [] given clean
  unfold env
  split
  · exact ⟨clean, contained_known _⟩
  · split
    · rename_i after fault ended
      rw [ended] at kept ends
      exact ⟨kept, ends⟩
    · rename_i after lines ended
      rw [ended] at kept
      refine ⟨kept, ?_⟩
      split
      · trivial
      · exact contained_known _

/-- A change of files that is done, or refused in an allowed way. -/
def StoreChange.Contained (loose : Prop) (spills : Fault → Prop) (change : StoreChange) : Prop :=
  ∀ store, Ends (Fault.Allowed loose spills) (fun _ => True) (change store).2

theorem contained_filing {spills : List String → Fault → Prop} (usage : CommandUsage)
    {change : List String → Scene → StoreChange}
    (contained : ∀ args (scene : Scene), (∀ arg ∈ args, LineScript.Clean loose arg.toList) →
      scene.Clean loose names → StoreChange.Contained loose (spills args) (change args scene)) :
    (filing usage change).Contained loose names spills := by
  refine contained_changing usage fun args scene given clean => ?_
  refine ⟨⟨clean.pwd, clean.environ, clean.env, clean.jobs, clean.names⟩, ?_⟩
  have ends := contained args scene given clean scene.machine.store
  rcases done : change args scene scene.machine.store with ⟨store, fault | _⟩
  · rw [done] at ends
    exact ends
  · trivial

theorem contained_attempt {paths : List String} (plain : ∀ path ∈ paths, Clean loose path.toList)
    (change : Files.Store → Except Files.Refusal Files.Store) :
    StoreChange.Contained loose spills (attempt paths change) := by
  intro store
  unfold attempt
  split
  · rename_i found
    obtain ⟨path, member, nul⟩ := List.any_eq_true.mp found
    exact .nul ((plain path member).of_hasNul nul)
  · split
    · trivial
    · exact .caught rfl

theorem contained_forEach {change : String → StoreChange} {names : List String}
    (each : ∀ name ∈ names, StoreChange.Contained loose spills (change name)) :
    StoreChange.Contained loose spills (forEach change names) := by
  induction names with
  | nil => exact fun _ => trivial
  | cons name rest ih =>
    intro store
    have first := each name (by simp) store
    rw [forEach]
    split
    · exact ih (fun other member => each other (List.mem_cons_of_mem _ member)) _
    · rename_i fault ended
      rw [ended] at first
      exact first

theorem contained_atPath (clean : scene.Clean loose names) {change : String → StoreChange}
    (each : ∀ path, Clean loose path.toList → StoreChange.Contained loose spills (change path))
    {name : String} (plain : Clean loose name.toList) :
    StoreChange.Contained loose spills (atPath scene change name) := by
  intro store
  have resolved : Ends (Fault.Allowed loose spills) (fun path => Clean loose path.toList)
      (scene.resolve name) := clean.resolve plain
  unfold atPath
  split
  · rename_i path found
    rw [found] at resolved
    exact each path resolved store
  · rename_i fault refused
    rw [refused] at resolved
    exact resolved

theorem contained_makeOne {path : String} (plain : Clean loose path.toList) :
    StoreChange.Contained loose spills (makeOne path) := by
  intro store
  have made : Ends (Fault.Allowed loose spills) (fun _ => True)
      (attempt [path] (·.makeDirectory path) store).2 :=
    contained_attempt (by simpa using plain) _ store
  unfold makeOne
  split
  · trivial
  · split
    · trivial
    · exact .caught rfl
  · rename_i fault _ ended
    rw [ended] at made
    exact made

theorem contained_makeWithParents (depth : Nat) {path : String} (plain : Clean loose path.toList) :
    StoreChange.Contained loose spills (makeWithParents depth path) := by
  induction depth generalizing path with
  | zero => exact contained_makeOne plain
  | succ depth ih =>
    intro store
    have above := ih (Path.clean_parent plain) store
    rw [makeWithParents]
    split
    · split
      · exact contained_makeOne plain _
      · rename_i fault ended
        split
        · exact contained_makeOne plain _
        · rw [ended] at above
          exact above
    · exact contained_makeOne plain _

theorem contained_mkdir (given : ∀ arg ∈ args, Clean loose arg.toList)
    (clean : scene.Clean loose names) :
    StoreChange.Contained loose spills (mkdir args scene) := by
  intro store
  unfold mkdir
  split
  · exact .caught rfl
  · refine contained_forEach (fun name member => ?_) store
    exact contained_atPath clean (fun _ plain => contained_makeWithParents _ plain)
      (given name member)

theorem contained_mv (given : ∀ arg ∈ args, Clean loose arg.toList)
    (clean : scene.Clean loose names) :
    StoreChange.Contained loose spills (mv args scene) := by
  intro store
  unfold mv
  split
  · rename_i source target
    have first : Ends (Fault.Allowed loose spills) (fun path => Clean loose path.toList)
      (scene.resolve source) := clean.resolve (given source (by simp))
    have second : Ends (Fault.Allowed loose spills) (fun path => Clean loose path.toList)
      (scene.resolve target) := clean.resolve (given target (by simp))
    split
    · rename_i old new found there
      rw [found] at first
      rw [there] at second
      exact contained_attempt (by simpa using ⟨first, second⟩) _ store
    · rename_i fault refused
      rw [refused] at first
      exact first
    · rename_i fault refused _
      rw [refused] at second
      exact second
  · exact .caught rfl

theorem contained_removePath {path : String} (plain : Clean loose path.toList) :
    StoreChange.Contained loose spills (removePath path) := by
  intro store
  unfold removePath
  split
  · exact contained_attempt (by simpa using plain) _ store
  · split
    · rename_i nul
      exact .nul (plain.of_hasNul nul)
    · split
      · trivial
      · trivial
      · exact .caught rfl

theorem contained_rm (given : ∀ arg ∈ args, Clean loose arg.toList)
    (clean : scene.Clean loose names) :
    StoreChange.Contained loose spills (rm args scene) := by
  intro store
  unfold rm
  split
  · exact .caught rfl
  · refine contained_forEach (fun name member => ?_) store
    exact contained_atPath clean (fun _ plain => contained_removePath plain) (given name member)

theorem contained_copyFile {source target : String} (old : Clean loose source.toList)
    (new : Clean loose target.toList) :
    StoreChange.Contained loose spills (copyFile source target) := by
  intro store
  unfold copyFile
  split
  · rename_i nul
    rcases Bool.or_eq_true _ _ |>.mp nul with first | second
    · exact .nul (old.of_hasNul first)
    · exact .nul (new.of_hasNul second)
  · split
    · exact .caught rfl
    · split
      · exact .caught rfl
      · exact contained_attempt (by simpa using new) _ store

theorem contained_copyOne (clean : scene.Clean loose names) {target source : String}
    (intoDirectory : Bool) (there : Clean loose target.toList) (plain : Clean loose source.toList) :
    StoreChange.Contained loose spills (copyOne scene target intoDirectory source) := by
  intro store
  have inside : Clean loose
      (if intoDirectory then Path.join target (Path.lastPiece source) else target).toList := by
    split
    · exact Path.clean_join there (Path.clean_lastPiece plain)
    · exact there
  unfold copyOne
  simp only
  split
  · exact contained_attempt (by simpa using inside) _ store
  · split
    · exact contained_attempt (by simpa using inside) _ store
    · exact contained_atPath clean (fun _ old => contained_copyFile old inside) plain store

theorem contained_cp (given : ∀ arg ∈ args, Clean loose arg.toList)
    (clean : scene.Clean loose names) :
    StoreChange.Contained loose spills (cp args scene) := by
  intro store
  unfold cp
  split
  · exact .caught rfl
  · rename_i last ends
    split
    · exact .caught rfl
    · have target : Ends (Fault.Allowed loose spills) (fun path => Clean loose path.toList)
          (scene.resolve last) := clean.resolve (given last (List.mem_of_getLast? ends))
      split
      · rename_i fault refused
        rw [refused] at target
        exact target
      · rename_i path found
        rw [found] at target
        simp only
        split
        · exact .caught rfl
        · refine contained_forEach (fun name member => ?_) store
          exact contained_copyOne clean _ target (given name (List.dropLast_subset _ member))

/-! ### Commands that run programs -/

theorem isProgram_of_find? {store : Files.Store} {paths name path : String}
    (found : Process.find? store paths name = some path) : Process.isProgram store path = true := by
  unfold Process.find? at found
  split at found
  · split at found <;> cases found
    assumption
  · split at found
    · cases found
    · exact List.find?_some found

theorem clean_of_isProgram {store : Files.Store} {path : String}
    (runs : Process.isProgram store path = true) : Clean loose path.toList := by
  apply clean_of_hasNul
  cases nul : Files.Store.hasNul path with
  | false => rfl
  | true =>
    simp [Process.isProgram, Files.Store.isExecutable, Files.Store.stat?, nul] at runs

theorem ends_findProgram (clean : scene.Clean loose names) {name : String}
    (plain : Clean loose name.toList) : Ends (Fault.Allowed loose spills)
      (fun program => Clean loose program.toList) (findProgram scene name) := by
  unfold findProgram
  simp only
  split
  · refine (clean.resolve plain).bind fun path kept => ?_
    split
    · exact kept
    · exact .caught rfl
  · split
    · rename_i path found
      exact clean_of_isProgram (isProgram_of_find? found)
    · exact .caught rfl

theorem ends_programOutput {result : Except Fault Process.Finished}
    (ends : Ends (Fault.FromProgram loose) (fun _ => True) result) :
    Ends (Fault.FromHandle loose) (fun _ => True) (programOutput result) := by
  cases result with
  | ok finished =>
    unfold Builtin.programOutput
    simp only
    split <;> trivial
  | error fault =>
    cases fault with
    | system refusal => trivial
    | value other =>
      cases other with
      | embeddedNul => exact ends
      | _ => cases ends
    | _ => cases ends

theorem contained_awaitJob (number : Nat) :
    Handle.Contained loose names (.task (awaitJob number)) := by
  intro scene clean
  have own (scene : Scene) (clean : scene.Clean loose names)
      {result : Except Fault Process.Finished}
      (found : scene.jobs[number]? = some (.finished result)) :
      Ends (Fault.FromHandle loose) (fun _ => True) (programOutput result) := by
    have job : Job.Clean loose (.finished result) := clean.jobs _ (List.mem_of_getElem? found)
    exact ends_programOutput job
  unfold awaitJob
  split
  · rename_i result found
    exact ⟨clean, own scene clean found⟩
  · simp only
    split
    · rename_i result found
      exact ⟨clean.pause, own _ clean.pause found⟩
    · exact ⟨clean.pause, trivial⟩

theorem contained_exec {spills : List String → Fault → Prop} (usage : CommandUsage) :
    (changing usage exec).Contained loose names spills := by
  refine contained_changing usage fun args scene given clean => ?_
  unfold exec
  split
  · exact ⟨clean, .caught rfl⟩
  · rename_i name args
    have found : Ends (Fault.Allowed loose (spills (name :: args)))
        (fun program => Clean loose program.toList) (findProgram scene name) :=
      ends_findProgram clean (given name (by simp))
    split
    · rename_i fault refused
      rw [refused] at found
      exact ⟨clean, found⟩
    · rename_i program there
      rw [there] at found
      have asked : Job.Clean loose (.waiting program args) :=
        ⟨found, fun arg member => given arg (List.mem_cons_of_mem _ member)⟩
      refine ⟨⟨clean.pwd, clean.environ, clean.env, ?_, clean.names⟩, contained_awaitJob _⟩
      exact List.forall_mem_append.mpr ⟨clean.jobs, by simpa using asked⟩

theorem clean_argumentPieces {arg : String} (plain : Clean loose arg.toList) :
    ∀ piece ∈ argumentPieces arg, Clean loose piece.toList := by
  intro piece member
  obtain ⟨chars, inside, kept⟩ := List.mem_filterMap.mp member
  obtain ⟨part, cut, rfl⟩ := List.mem_map.mp inside
  split at kept
  · cases kept
  · cases kept
    rw [String.toList_ofList]
    exact plain.part (List.Subset.trans (stripChars_subset _) (Path.splitAt_subset cut))

theorem contained_expanding (name : String) {inner : Command}
    {spills : List String → Fault → Prop}
    (contained : ∀ spills, inner.Contained loose names spills) :
    (expanding name inner).Contained loose names spills where
  aloof args state := run_expanding (motive := (·.1.background = state.background)) name inner args
    state (fun _ => rfl) fun expanded _ _ => (contained spills).aloof expanded _
  runs args state given clean steady := by
    refine run_expanding (motive := fun ran =>
      ran.1.Clean loose names ∧ ran.2.Contained loose names (spills args)) name inner args state
      (fun _ => ⟨clean, .caught rfl⟩) fun expanded message split => ?_
    have pieces : ∀ arg ∈ expanded, Clean loose arg.toList := by
      unfold expandArguments at split
      split at split
      · cases split
      · cases split
        intro piece member
        obtain ⟨arg, among, inside⟩ := List.mem_flatMap.mp member
        exact clean_argumentPieces (given arg among) piece inside
    exact (contained fun _ => spills args).runs expanded _ pieces clean steady

/-! ### The tables -/

/-- The commands that search for a pattern. -/
def searches : List String := ["grep", "stderr", "stdout"]

/-- What a command spills by its name: the problems of patterns, if it searches for one. -/
def Spills (names : String → Option Nat) (name : String) (args : List String) (fault : Fault) :
    Prop :=
  name ∈ searches ∧ PatternProblem names args fault

theorem contained_commands :
    ∀ entry ∈ commands.entries, entry.2.Contained loose names (Spills names entry.1) := by
  have searching (name : String) (among : name ∈ searches) (args : List String) (fault : Fault)
      (problem : PatternProblem names args fault) : Spills names name args fault := ⟨among, problem⟩
  simp only [commands, List.forall_mem_cons]
  exact ⟨contained_looking _ fun _ _ given clean _ => ends_cat given clean, contained_cd _,
    contained_filing _ fun _ _ given clean => contained_cp given clean,
    contained_looking _ fun _ _ _ _ _ => contained_known _, contained_env _, contained_exec _,
    contained_looking _ fun _ _ given clean _ => ends_exists given clean,
    contained_looking _ fun _ _ given clean _ =>
      ends_grep (searching "grep" (by decide) _) given clean,
    contained_looking _ fun _ _ _ _ steady => ends_help steady,
    contained_filing _ fun _ _ given clean => contained_mkdir given clean,
    contained_filing _ fun _ _ given clean => contained_mv given clean,
    contained_looking _ fun _ _ _ _ _ => ends_pwd,
    contained_filing _ fun _ _ given clean => contained_rm given clean,
    contained_looking _ fun _ _ _ _ _ => ends_sleep,
    contained_looking _ fun _ _ _ clean _ =>
      ends_searchLast clean.names (searching "stderr" (by decide) _) _ _,
    contained_looking _ fun _ _ _ clean _ =>
      ends_searchLast clean.names (searching "stdout" (by decide) _) _ _,
    contained_looking _ fun _ _ _ _ _ => .caught rfl,
    contained_looking _ fun _ _ _ _ _ => ends_wait, by simp⟩

end Builtin

/-- An engine whose commands all raise nothing but what is caught, what a NUL makes, and what they
are known to spill; and the conditions in its manual can be told. -/
structure Engine.Contained (loose : Prop) (names : String → Option Nat) (engine : Engine) :
    Prop where
  commands : ∀ name command, engine.commands.find? name = some command →
    command.Contained loose names (Builtin.Spills names name)
  manual : engine.manual.Steady

namespace Engine

/-- The conditions that every engine knows can be told without a suffix if they take none. -/
theorem steady_standard : ∀ entry ∈ standard.conditions.entries,
    entry.2.usage.takesSuffix = false → ∀ scene, ∃ holds, entry.2.holds scene "" = .ok holds := by
  simp only [standard, Builtin.conditions, List.forall_mem_cons]
  exact ⟨by rintro ⟨⟩, by rintro ⟨⟩, fun _ _ => ⟨_, rfl⟩, by simp⟩

theorem contained_standard : standard.Contained loose names where
  commands name command found :=
    Builtin.contained_commands (name, command) (Table.mem_of_find? found)
  manual name condition found :=
    steady_standard (name, condition) (Table.mem_of_find? found)

theorem contained_extend (naming : Builtin.Naming) :
    (standard.extend naming).Contained loose names where
  commands name command found := by
    obtain ⟨_, rfl⟩ | known := find?_extend found
    · exact Builtin.contained_expanding "execx" fun _ => Builtin.contained_exec _
    · exact contained_standard.commands name command known
  manual name condition found bare := by
    rcases Table.mem_of_mem_insert (Table.mem_of_find? found) with among | ⟨_, rfl⟩
    · rcases Table.mem_of_mem_insert among with among | ⟨_, rfl⟩
      · exact steady_standard (name, condition) among bare
      · cases bare
    · cases bare

end Engine

end LineScript
