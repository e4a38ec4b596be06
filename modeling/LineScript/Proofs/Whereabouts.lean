import LineScript.Proofs.Appending
import LineScript.Proofs.Cancellation

/-!
# What moves a script
The working directory changes where a directory is entered, and the environment there and where a
variable is set. In scripts only `cd` and `env` do so: whatever else runs, in the foreground or in
the background, leaves both as they are. So the calls in the trace of an execution tell all that was
done to them (`execute_does`).
-/
namespace LineScript

/-! ## Deeds -/

/-- What is done to the directory and the environment: a variable is set, or a directory is entered
by a path. -/
inductive Deed where
  | set (name value : String)
  | enter (path : String)
  deriving DecidableEq, Repr

/-- One scene comes of another by deeds that all succeed. In between anything else may happen that
leaves the directory and the environment as they are. -/
inductive Scene.Does : Scene → List Deed → Scene → Prop where
  | aside {scene after : Scene} (pwd : after.pwd = scene.pwd) (env : after.env = scene.env) :
    Does scene [] after
  | set {scene after : Scene} {name value : String}
    (accepted : scene.setVariable name value = .ok after) : Does scene [.set name value] after
  | enter {scene after : Scene} {path : String}
    (accepted : scene.changeDirectory path = .ok after) : Does scene [.enter path] after
  | trans {scene between after : Scene} {first second : List Deed}
    (early : Does scene first between) (late : Does between second after) :
    Does scene (first ++ second) after

theorem Scene.Does.refl (scene : Scene) : scene.Does [] scene := .aside rfl rfl

/-- A handle that leaves the directory and the environment as they are. -/
def Handle.Stationary (handle : Handle) : Prop :=
  ∀ scene, (handle.await scene).1.pwd = scene.pwd ∧ (handle.await scene).1.env = scene.env

/-- The variables that `env` sets with its arguments: those up to the first that has no name. -/
def Builtin.settings : List String → List (String × String)
  | [] => []
  | arg :: rest => match Environment.splitEntry arg with
    | (name, some value) =>
      if Environment.isName name then (name, value) :: settings rest else []
    | (_, none) => settings rest

/-- The deeds of a command that is called and replies as given: `cd` enters its argument if it is
done, and `env` sets variables whatever it replies. -/
def Script.Line.deeds (line : Script.Line) (reply : Reply) : List Deed :=
  if line.name = "cd" then match reply with
    | .done => line.args.map .enter
    | _ => []
  else if line.name = "env" then
    (Builtin.settings line.args).map fun setting => .set setting.1 setting.2
  else []

/-- The deeds of the commands that were called. -/
def Trace.deeds (trace : Trace) : List Deed :=
  trace.flatMap fun
    | .called line reply => line.deeds reply
    | _ => []

/-- An engine where `cd` and `env` do what their names say, and nothing else does such deeds. -/
structure Engine.Grounded (engine : Engine) : Prop where
  hands : engine.Hands Handle.Stationary
  does : ∀ {line : Script.Line} {command : Command} {state after : State} {reply : Reply},
    engine.commands.find? line.name = some command → command.run line.args state = (after, reply) →
      state.toScene.Does (line.deeds reply) after.toScene

/-! ## Moves -/

namespace Trace

theorem deeds_append (first second : Trace) :
    (first ++ second).deeds = first.deeds ++ second.deeds := List.flatMap_append

theorem deeds_called (line : Script.Line) (reply : Reply) (rest : Trace) :
    deeds (.called line reply :: rest) = line.deeds reply ++ deeds rest := List.flatMap_cons

theorem deeds_of_calls {trace : Trace} (none : trace.calls = []) : trace.deeds = [] := by
  rw [calls, List.filterMap_eq_nil_iff] at none
  refine List.flatMap_eq_nil_iff.mpr fun event member => ?_
  cases event with
  | called line reply => cases none _ member
  | _ => rfl

theorem deeds_call (line : Script.Line) (reply : Reply) :
    deeds [.called line reply] = line.deeds reply := List.append_nil _

end Trace

/-- Where a command is followed by what leaves the directory and the environment alone, its deeds
are all that is done. -/
theorem Scene.Does.still {scene between after : Scene} {deeds : List Deed}
    (does : scene.Does deeds between) (pwd : after.pwd = between.pwd)
    (env : after.env = between.env) : scene.Does deeds after := by
  have more := does.trans (.aside pwd env)
  rwa [List.append_nil] at more

/-- The deeds of a move are those of the command that it calls. -/
theorem Engine.Moves.does {engine : Engine} (grounded : engine.Grounded) {state after : State}
    {trace : Trace} (moves : engine.Moves state trace after)
    (holds : state.Holds Handle.Stationary) : state.toScene.Does trace.deeds after.toScene := by
  induction moves with
  | quiet state quiet =>
    rw [Trace.deeds_of_calls quiet.calls]
    exact .refl _
  | attach | note | record => exact .aside rfl rfl
  | call found replied _ =>
    rw [Trace.deeds_call]
    exact grounded.does found replied
  | send found replied _ =>
    rw [Trace.deeds_call]
    exact (grounded.does found replied).still rfl rfl
  | await found replied _ =>
    obtain ⟨pwd, env⟩ := (grounded.hands.run found replied holds).2 _ rfl _
    rw [Trace.deeds_called, Trace.deeds_of_calls rfl, List.append_nil]
    exact (grounded.does found replied).still pwd env
  | wait _ found replied _ =>
    rw [Trace.deeds_called, Trace.deeds_of_calls rfl, List.append_nil]
    exact grounded.does found replied
  | join state =>
    rw [Trace.deeds_of_calls state.join_passive.1]
    obtain ⟨pwd, env⟩ := holds.join (fun scene => scene.pwd = state.pwd ∧ scene.env = state.env)
      (fun _ still scene same => ⟨(still scene).1.trans same.1, (still scene).2.trans same.2⟩)
      ⟨rfl, rfl⟩
    exact .aside pwd env
  | trans early late first second =>
    rw [Trace.deeds_append]
    exact (first holds).trans (second (early.holds grounded.hands holds))

/-- All that an execution does to the directory and the environment is in its trace, however it
ends. -/
theorem Engine.execute_does {engine : Engine} (grounded : engine.Grounded) (name : String)
    (source : Source) {state : State} (holds : state.Holds Handle.Stationary) :
    state.toScene.Does (engine.execute name source state).trace.deeds
        (engine.execute name source state).state.toScene ∧
      (engine.execute name source state).state.Holds Handle.Stationary := by
  have moves := engine.execute_moves name source state
  exact ⟨moves.does grounded holds, moves.holds grounded.hands holds⟩

/-- Once the lines of a script have come to their end, nothing more is done. -/
theorem Engine.deeds_execute (engine : Engine) (name : String) (source : Source) (state : State) :
    (engine.execute name source state).trace.deeds =
      (engine.advance name source.lines state).trace.deeds := by
  have passive := (engine.advance name source.lines state).ending.run_passive name source.failure
    (engine.advance name source.lines state).state
  rw [execute, Run.after, Trace.deeds_append, Trace.deeds_of_calls passive.1, List.append_nil]

/-! ## Commands that stay -/

/-- A command that leaves the directory and the environment as they are, and whose handles do. -/
structure Command.Stationary (command : Command) : Prop where
  hands : command.Hands Handle.Stationary
  stays : ∀ args state, (command.run args state).1.pwd = state.pwd ∧
    (command.run args state).1.env = state.env

theorem Handle.Plain.stationary {handle : Handle} (plain : handle.Plain) : handle.Stationary := by
  cases plain <;> exact fun _ => ⟨rfl, rfl⟩

namespace Builtin

theorem stationary_looking (usage : CommandUsage) {look : List String → State → Except Fault Reply}
    (plain : ∀ args state, Plain (look args state)) : (looking usage look).Stationary where
  hands := (tidy_looking usage plain).hands fun args state handle replied =>
    (plain args state handle (eq_of_replyOf replied)).stationary
  stays := fun _ _ => ⟨rfl, rfl⟩

theorem stationary_filing (usage : CommandUsage) (change : List String → Scene → StoreChange) :
    (filing usage change).Stationary where
  hands := (tidy_filing usage change).hands fun _ _ handle replied =>
    (plain_filing _ handle (eq_of_replyOf replied)).stationary
  stays := fun _ _ => ⟨rfl, rfl⟩

theorem stationary_awaitJob (number : Nat) : (Handle.task (awaitJob number)).Stationary := by
  intro scene
  simp only [Handle.await, awaitJob]
  split
  · exact ⟨rfl, rfl⟩
  · split <;> exact ⟨rfl, rfl⟩

theorem stationary_exec (usage : CommandUsage) : (changing usage exec).Stationary := by
  refine ⟨(tidy_exec usage).hands fun args state handle replied => ?_, fun args state => ?_⟩
  · obtain ⟨number, rfl⟩ := handle_exec (eq_of_replyOf replied)
    exact stationary_awaitJob number
  · simp only [Command.run, changing, exec]
    split
    · exact ⟨rfl, rfl⟩
    · split <;> exact ⟨rfl, rfl⟩

theorem stationary_expanding (name : String) {inner : Command} (stationary : inner.Stationary) :
    (expanding name inner).Stationary where
  hands := {
    background := fun args state holds =>
      run_expanding (motive := (·.1.Holds Handle.Stationary)) name inner args state
        (fun _ => holds) fun expanded _ _ => stationary.hands.background expanded _ holds
    handles := fun args state handle =>
      run_expanding (motive := (·.2 = .handle handle → handle.Stationary)) name inner args state
        (by simp) fun expanded _ _ => stationary.hands.handles expanded _ handle }
  stays args state :=
    run_expanding (motive := fun ran => ran.1.pwd = state.pwd ∧ ran.1.env = state.env) name inner
      args state (fun _ => ⟨rfl, rfl⟩) fun expanded _ _ => stationary.stays expanded _

/-- All but two of the commands stay where they are. -/
theorem stationary_commands : ∀ entry ∈ commands.entries,
    entry.1 = "cd" ∨ entry.1 = "env" ∨ entry.2.Stationary := by
  simp only [commands, List.forall_mem_cons]
  exact ⟨.inr (.inr (stationary_looking _ plain_cat)), .inl trivial,
    .inr (.inr (stationary_filing _ _)), .inr (.inr (stationary_looking _ fun _ _ => plain_say _)),
    .inr (.inl trivial), .inr (.inr (stationary_exec _)),
    .inr (.inr (stationary_looking _ plain_exists)),
    .inr (.inr (stationary_looking _ fun _ _ => plain_search _ _ _)),
    .inr (.inr (stationary_looking _ plain_help)), .inr (.inr (stationary_filing _ _)),
    .inr (.inr (stationary_filing _ _)), .inr (.inr (stationary_looking _ plain_pwd)),
    .inr (.inr (stationary_filing _ _)), .inr (.inr (stationary_looking _ plain_sleep)),
    .inr (.inr (stationary_looking _ fun _ _ => plain_search _ _ _)),
    .inr (.inr (stationary_looking _ fun _ _ => plain_search _ _ _)),
    .inr (.inr (stationary_looking _ fun _ _ => plain_error _)),
    .inr (.inr (stationary_looking _ plain_wait)), by simp⟩

end Builtin

/-! ## Commands that move -/

section
variable {scene : Scene} {name value : String}

theorem Scene.setVariable_of_name (named : Environment.isName name = true) :
    scene.setVariable name value = .ok { scene with env := scene.env.insert name value } := by
  simp [setVariable, Environment.set, named]

theorem Scene.setVariable_of_not_name (unnamed : Environment.isName name = false) :
    scene.setVariable name value = .error (.failure (.invalidName name)) := by
  simp [setVariable, Environment.set, unnamed]

theorem Scene.setVariable_eq_ok {after : Scene}
    (accepted : scene.setVariable name value = .ok after) :
    Environment.isName name = true ∧ after = { scene with env := scene.env.insert name value } := by
  cases named : Environment.isName name with
  | true =>
    rw [setVariable_of_name named] at accepted
    cases accepted
    exact ⟨rfl, rfl⟩
  | false =>
    rw [setVariable_of_not_name named] at accepted
    cases accepted

end

/-- The scene with variables set, one after the other. -/
def Scene.setAll (scene : Scene) (settings : List (String × String)) : Scene :=
  { scene with
    env := settings.foldl (fun env setting => env.insert setting.1 setting.2) scene.env }

theorem Scene.does_setAll (scene : Scene) {settings : List (String × String)}
    (named : ∀ setting ∈ settings, Environment.isName setting.1 = true) :
    scene.Does (settings.map fun setting => .set setting.1 setting.2) (scene.setAll settings) := by
  induction settings generalizing scene with
  | nil => exact .refl scene
  | cons setting rest ih =>
    obtain ⟨own, others⟩ := List.forall_mem_cons.mp named
    exact Scene.Does.trans (.set (setVariable_of_name own)) (ih _ others)

namespace Builtin

/-- `cd` enters the one directory that it is given, or it changes nothing and raises a fault. -/
theorem cd_cases (args : List String) (scene : Scene) :
    (∃ path after, args = [path] ∧ scene.changeDirectory path = .ok after ∧
      cd args scene = (after, .ok .done)) ∨ ∃ fault, cd args scene = (scene, .error fault) := by
  unfold cd
  split
  · rename_i path
    cases changed : scene.changeDirectory path with
    | ok after => exact .inl ⟨path, after, rfl, changed, rfl⟩
    | error fault => exact .inr ⟨fault, rfl⟩
  · exact .inr ⟨_, rfl⟩

/-- Unless it is done, `cd` changes nothing. -/
theorem fst_cd {args : List String} {scene : Scene} (undone : (cd args scene).2 ≠ .ok .done) :
    (cd args scene).1 = scene := by
  rcases cd_cases args scene with ⟨_, _, _, _, entered⟩ | ⟨fault, stayed⟩
  · rw [entered] at undone
    exact absurd rfl undone
  · rw [stayed]

theorem does_cd (usage : CommandUsage) {line : Script.Line} (named : line.name = "cd")
    (state : State) : state.toScene.Does
      (line.deeds ((changing usage cd).run line.args state).2)
      ((changing usage cd).run line.args state).1.toScene := by
  unfold Script.Line.deeds
  rw [if_pos named]
  simp only [Command.run, changing]
  rcases cd_cases line.args state.toScene with
    ⟨path, after, args, changed, entered⟩ | ⟨fault, stayed⟩
  · rw [entered, args]
    exact .enter changed
  · rw [stayed]
    exact .refl _

theorem named_settings (args : List String) :
    ∀ setting ∈ settings args, Environment.isName setting.1 = true := by
  induction args with
  | nil => simp [settings]
  | cons arg rest ih =>
    rw [settings]
    obtain ⟨name, value | value⟩ := Environment.splitEntry arg
    · exact ih
    · cases named : Environment.isName name with
      | true => simpa [named] using ih
      | false => simp [named]

/-- The arguments of `env` are done up to the first that has no name. -/
theorem fst_envLines (lines args : List String) (scene : Scene) :
    (envLines lines args scene).1 = scene.setAll (settings args) := by
  induction args generalizing lines scene with
  | nil => rfl
  | cons arg rest ih =>
    rw [envLines, settings]
    obtain ⟨name, value | value⟩ := Environment.splitEntry arg
    · exact ih _ scene
    · cases named : Environment.isName name with
      | true =>
        simp only [Scene.setVariable_of_name named, ih, named, if_true]
        rfl
      | false =>
        simp only [Scene.setVariable_of_not_name named, named, Bool.false_eq_true, if_false]
        rfl

/-- Whatever `env` replies, it has set the variables that its arguments set. -/
theorem fst_env (args : List String) (scene : Scene) :
    (env args scene).1 = scene.setAll (settings args) := by
  unfold env
  split
  · rename_i empty
    rw [List.isEmpty_iff.mp empty]
    rfl
  · have done := fst_envLines [] args scene
    split <;> simpa [*] using done

theorem does_env (args : List String) (scene : Scene) :
    scene.Does ((settings args).map fun setting => .set setting.1 setting.2)
      (env args scene).1 := by
  rw [fst_env]
  exact scene.does_setAll (named_settings args)

end Builtin

/-- Among the commands that every engine knows, `cd` and `env` are the two that move. -/
theorem Engine.moving_cases {name : String} {command : Command}
    (found : standard.commands.find? name = some command) :
    name = "cd" ∧ (∃ usage, command = Builtin.changing usage Builtin.cd) ∨
      name = "env" ∧ (∃ usage, command = Builtin.changing usage Builtin.env) ∨
      name ≠ "cd" ∧ name ≠ "env" ∧ command.Stationary := by
  by_cases cd : name = "cd"
  · subst cd
    cases found
    exact .inl ⟨rfl, _, rfl⟩
  by_cases env : name = "env"
  · subst env
    cases found
    exact .inr (.inl ⟨rfl, _, rfl⟩)
  right; right
  rcases Builtin.stationary_commands (name, command) (Table.mem_of_find? found) with
    same | same | stationary
  · exact absurd same cd
  · exact absurd same env
  · exact ⟨cd, env, stationary⟩

theorem Command.Stationary.does {command : Command} (stationary : command.Stationary)
    {line : Script.Line} (cd : line.name ≠ "cd") (env : line.name ≠ "env") (state : State) :
    state.toScene.Does (line.deeds (command.run line.args state).2)
      (command.run line.args state).1.toScene := by
  obtain ⟨pwd, same⟩ := stationary.stays line.args state
  unfold Script.Line.deeds
  rw [if_neg cd, if_neg env]
  exact .aside pwd same

theorem Engine.grounded_standard : standard.Grounded where
  hands := by
    intro name command found
    rcases moving_cases found with ⟨_, usage, rfl⟩ | ⟨_, usage, rfl⟩ | ⟨_, _, stationary⟩
    · exact (Builtin.tidy_cd usage).hands fun args state handle replied =>
        (Builtin.plain_cd args state.toScene handle (Builtin.eq_of_replyOf replied)).stationary
    · exact (Builtin.tidy_env usage).hands fun args state handle replied =>
        (Builtin.plain_env args state.toScene handle (Builtin.eq_of_replyOf replied)).stationary
    · exact stationary.hands
  does := by
    intro line command state after reply found replied
    rcases moving_cases found with
      ⟨named, usage, rfl⟩ | ⟨named, usage, rfl⟩ | ⟨cd, env, stationary⟩
    · have does := Builtin.does_cd usage named state
      rwa [replied] at does
    · have does := Builtin.does_env line.args state.toScene
      simp only [Command.run, Builtin.changing, Prod.mk.injEq] at replied
      unfold Script.Line.deeds
      rw [named, if_neg (by simp), if_pos rfl, ← replied.1]
      exact does
    · have does := stationary.does cd env state
      rwa [replied] at does

/-- What scripts get on top stays, if the programs do that an engine runs. -/
theorem Engine.Grounded.extend {engine : Engine} (grounded : engine.Grounded)
    (stationary : ((engine.commands.find? "exec").getD Builtin.execCommand).Stationary)
    (naming : Builtin.Naming) : (engine.extend naming).Grounded where
  hands name command found := by
    obtain ⟨_, rfl⟩ | known := find?_extend found
    · exact (Builtin.stationary_expanding "execx" stationary).hands
    · exact grounded.hands name command known
  does := by
    intro line command state after reply found replied
    obtain ⟨named, rfl⟩ | known := find?_extend found
    · have other (name : String) (new : "execx" ≠ name) : line.name ≠ name := named ▸ new
      have does := (Builtin.stationary_expanding "execx" stationary).does
        (other "cd" (by simp)) (other "env" (by simp)) state
      rwa [replied] at does
    · exact grounded.does known replied

theorem Engine.grounded_extend (naming : Builtin.Naming) : (standard.extend naming).Grounded :=
  grounded_standard.extend (Builtin.stationary_exec _) naming

/-! ## States that come of a first one -/

/-- A state comes of another one: variables are set, directories are entered, `env` is called and
scripts are executed, in any order. In between anything else may happen that does such deeds only,
and leaves nothing in the background that would do others. -/
inductive State.LeadsTo (first : State) : List Deed → State → Prop where
  | start : LeadsTo first [] first
  | set {deeds : List Deed} {state : State} {scene : Scene} {name value : String}
    (led : LeadsTo first deeds state) (accepted : state.setVariable name value = .ok scene) :
    LeadsTo first (deeds ++ [.set name value]) { state with toScene := scene }
  | enter {deeds : List Deed} {state : State} {scene : Scene} {path : String}
    (led : LeadsTo first deeds state) (accepted : state.changeDirectory path = .ok scene) :
    LeadsTo first (deeds ++ [.enter path]) { state with toScene := scene }
  | env {deeds : List Deed} {state : State} (led : LeadsTo first deeds state)
    (args : List String) : LeadsTo first
      (deeds ++ (Builtin.settings args).map fun setting => .set setting.1 setting.2)
      { state with toScene := (Builtin.env args state.toScene).1 }
  | execute {deeds : List Deed} {state : State} {engine : Engine}
    (led : LeadsTo first deeds state) (grounded : engine.Grounded) (name : String)
    (source : Source) : LeadsTo first
      (deeds ++ (engine.execute name source state).trace.deeds)
      (engine.execute name source state).state
  | other {deeds more : List Deed} {state after : State} (led : LeadsTo first deeds state)
    (does : state.toScene.Does more after.toScene) (holds : after.Holds Handle.Stationary) :
    LeadsTo first (deeds ++ more) after

/-- What leads to a state are its deeds, and no others wait in the background. -/
theorem State.LeadsTo.does {first state : State} {deeds : List Deed}
    (led : first.LeadsTo deeds state) (idle : first.background = []) :
    first.toScene.Does deeds state.toScene ∧ state.Holds Handle.Stationary := by
  induction led with
  | start => exact ⟨.refl _, by simp [State.Holds, State.outstanding, idle]⟩
  | set _ accepted ih => exact ⟨ih.1.trans (.set accepted), ih.2⟩
  | enter _ accepted ih => exact ⟨ih.1.trans (.enter accepted), ih.2⟩
  | env _ args ih => exact ⟨ih.1.trans (Builtin.does_env args _), ih.2⟩
  | execute _ grounded name source ih =>
    obtain ⟨does, holds⟩ := Engine.execute_does grounded name source ih.2
    exact ⟨ih.1.trans does, holds⟩
  | other _ does holds ih => exact ⟨ih.1.trans does, holds⟩

end LineScript
