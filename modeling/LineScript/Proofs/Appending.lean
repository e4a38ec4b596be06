import LineScript.Builtin.Tables
import LineScript.Proofs.Moves

/-!
# What scripts write stays
Output that was recorded is never taken back, and neither are notes: whatever runs, and however it
ends, what was written and noted before stands in front of what comes on top (`execute_grows`). The
commands that every engine knows, and the ones that scripts get on top of them, keep to that and
are modest (`tidy_standard`, `tidy_extend`).
-/
namespace LineScript

/-! ## Growth -/

/-- The second output goes on from the first. -/
def Output.Begins (first second : Output) : Prop := ∃ more, second = first.append more

namespace Output.Begins

theorem refl (output : Output) : output.Begins output := ⟨.empty, output.append_empty.symm⟩

theorem of_eq {first second : Output} (same : second = first) : first.Begins second :=
  same ▸ refl first

theorem trans {first second third : Output} (early : first.Begins second)
    (late : second.Begins third) : first.Begins third := by
  obtain ⟨more, rfl⟩ := early
  obtain ⟨rest, rfl⟩ := late
  exact ⟨more.append rest, Output.append_assoc first more rest⟩

end Output.Begins

/-- What was written and noted in the first state stands in front of what is in the second. -/
structure Grown (state after : State) : Prop where
  written : state.written.Begins after.written
  noted : state.diagnostics <+: after.diagnostics

theorem Grown.trans {state between after : State} (early : Grown state between)
    (late : Grown between after) : Grown state after :=
  ⟨early.written.trans late.written, early.noted.trans late.noted⟩

/-- A handle that takes back nothing that was written. A wait does not where those do not that it
collects. -/
def Handle.Discreet : Handle → Prop
  | .task run => ∀ scene : Scene, scene.written.Begins (run scene).1.written
  | .join => True

/-- A command that takes back nothing, and whose handles do not. -/
structure Command.Discreet (command : Command) : Prop where
  hands : command.Hands Handle.Discreet
  grows : ∀ args state, Grown state (command.run args state).1

/-- An engine whose commands all are of this kind. -/
def Engine.Discreet (engine : Engine) : Prop :=
  ∀ name command, engine.commands.find? name = some command → command.Discreet

theorem Handle.Discreet.await {handle : Handle} (discreet : handle.Discreet) (scene : Scene) :
    scene.written.Begins (handle.await scene).1.written := by
  cases handle with
  | task run => exact discreet scene
  | join => exact .refl _

theorem Engine.Discreet.hands {engine : Engine} (discreet : engine.Discreet) :
    engine.Hands Handle.Discreet := fun name command found => (discreet name command found).hands

theorem Engine.Discreet.run {engine : Engine} (discreet : engine.Discreet) {line : Script.Line}
    {command : Command} {state after : State} {reply : Reply}
    (found : engine.commands.find? line.name = some command)
    (replied : command.run line.args state = (after, reply)) : Grown state after := by
  have grown := (discreet _ _ found).grows line.args state
  rwa [replied] at grown

/-- Every move adds to what was written and noted. -/
theorem Engine.Moves.grows {engine : Engine} (discreet : engine.Discreet) {state after : State}
    {trace : Trace} (moves : engine.Moves state trace after)
    (holds : state.Holds Handle.Discreet) : Grown state after := by
  induction moves with
  | quiet | attach => exact ⟨.refl _, List.prefix_rfl⟩
  | note => exact ⟨.refl _, List.prefix_append _ _⟩
  | record state output => exact ⟨⟨output, rfl⟩, List.prefix_rfl⟩
  | call found replied _ => exact discreet.run found replied
  | send found replied _ =>
    have grown := discreet.run found replied
    exact ⟨grown.written, grown.noted⟩
  | await found replied _ =>
    have grown := discreet.run found replied
    have own := (discreet.hands.run found replied holds).2 _ rfl
    exact ⟨grown.written.trans (own _), grown.noted⟩
  | wait _ found replied _ => exact discreet.run found replied
  | join state =>
    have grown := holds.join (fun scene => state.written.Begins scene.written)
      (fun _ own scene grown => grown.trans (own.await scene)) (.refl _)
    exact ⟨grown, List.prefix_rfl⟩
  | trans early late first second =>
    exact (first holds).trans (second (early.holds discreet.hands holds))

/-- An execution adds to what was written and noted, however it ends. -/
theorem Engine.execute_grows {engine : Engine} (discreet : engine.Discreet) (name : String)
    (source : Source) {state : State} (holds : state.Holds Handle.Discreet) :
    Grown state (engine.execute name source state).state ∧
      (engine.execute name source state).state.Holds Handle.Discreet := by
  have moves := engine.execute_moves name source state
  exact ⟨moves.grows discreet holds, moves.holds discreet.hands holds⟩

/-! ## Commands that write nothing -/

theorem Handle.Modest.discreet {handle : Handle} (modest : handle.Modest) : handle.Discreet := by
  cases handle with
  | task run => exact fun scene => .of_eq (modest scene)
  | join => trivial

/-- A modest command that takes back no notes. -/
structure Command.Tidy (command : Command) : Prop extends command.Modest where
  noted : ∀ args state, state.diagnostics <+: (command.run args state).1.diagnostics

theorem Command.Modest.hands {command : Command} (modest : command.Modest) {kind : Handle → Prop}
    (handles : ∀ args state handle, (command.run args state).2 = .handle handle → kind handle) :
    command.Hands kind where
  background args state holds := by rwa [State.Holds, State.outstanding, modest.background]
  handles := handles

theorem Command.Tidy.discreet {command : Command} (tidy : command.Tidy) : command.Discreet where
  hands := tidy.hands fun args state handle replied =>
    (tidy.handles args state handle replied).discreet
  grows args state := ⟨.of_eq (tidy.written args state), tidy.noted args state⟩

/-! ## Replies of commands -/

/-- The handles of commands that do nothing to the scene: output that is known, a pause, and the
wait for the background. -/
inductive Handle.Plain : Handle → Prop where
  | known (output : Output) : Plain (.known output)
  | pause : Plain (.task fun scene => (scene.pause, .ok .empty))
  | join : Plain .join

theorem Handle.Plain.modest {handle : Handle} (plain : handle.Plain) : handle.Modest := by
  cases plain with
  | known output => exact fun _ => rfl
  | pause => exact fun _ => rfl
  | join => trivial

namespace Builtin

/-- If this comes to a handle, the handle is plain. -/
def Plain (result : Except Fault Reply) : Prop :=
  ∀ handle, result = .ok (.handle handle) → handle.Plain

theorem plain_error (fault : Fault) : Plain (.error fault) := by rintro _ ⟨⟩

theorem plain_done : Plain (.ok .done) := by rintro _ ⟨⟩

theorem plain_say (text : String) : Plain (.ok (say text)) := by
  rintro _ ⟨⟩
  exact .known _

theorem plain_bind {α : Type} (result : Except Fault α) {next : α → Except Fault Reply}
    (plain : ∀ value, Plain (next value)) : Plain (result >>= next) := by
  cases result with
  | error fault => exact plain_error fault
  | ok value => exact plain value

theorem eq_of_replyOf {result : Except Fault Reply} {handle : Handle}
    (replied : replyOf result = .handle handle) : result = .ok (.handle handle) := by
  cases result with
  | error fault => cases replied
  | ok reply =>
    cases replied
    rfl

/-! ## Commands that look -/

theorem plain_cat (args : List String) (state : State) : Plain (cat args state) := by
  unfold cat
  split
  · exact plain_error _
  · exact plain_bind _ fun _ => plain_say _

theorem plain_pwd (args : List String) (state : State) : Plain (pwd args state) := by
  unfold pwd
  split
  · exact plain_say _
  · exact plain_error _

theorem plain_exists (args : List String) (state : State) : Plain (exists? args state) := by
  unfold exists?
  simp only
  split
  · exact plain_error _
  · exact plain_bind _ fun _ => plain_done

theorem plain_help (args : List String) (state : State) : Plain (help args state) := by
  unfold help
  split
  · exact plain_error _
  · exact plain_bind _ fun _ => plain_say _

theorem plain_wait (args : List String) (state : State) : Plain (wait args state) := by
  unfold wait
  split
  · rintro _ ⟨⟩
    exact .join
  · exact plain_error _

theorem plain_sleep (args : List String) (state : State) : Plain (sleep args state) := by
  unfold sleep
  split
  · split
    · rintro _ ⟨⟩
      exact .pause
    · exact plain_error _
  · exact plain_error _

theorem plain_search (machine : Machine) (content : List String → Except Fault (String × String))
    (args : List String) : Plain (search machine content args) := by
  unfold search
  split
  · exact plain_error _
  · exact plain_error _
  · split
    · exact plain_error _
    · refine plain_bind _ fun (text, name) => ?_
      simp only
      split
      · exact plain_done
      · exact plain_error _

theorem tidy_looking (usage : CommandUsage) {look : List String → State → Except Fault Reply}
    (plain : ∀ args state, Plain (look args state)) : (looking usage look).Tidy where
  background _ _ := rfl
  written _ _ := rfl
  handles args state handle replied := (plain args state handle (eq_of_replyOf replied)).modest
  noted _ _ := List.prefix_rfl

/-! ## Commands that change the scene -/

theorem tidy_changing (usage : CommandUsage)
    {change : List String → Scene → Scene × Except Fault Reply}
    (written : ∀ args scene, (change args scene).1.written = scene.written)
    (modest : ∀ args scene handle, (change args scene).2 = .ok (.handle handle) →
      handle.Modest) : (changing usage change).Tidy where
  background _ _ := rfl
  written args state := written args state.toScene
  handles args state handle replied := modest args state.toScene handle (eq_of_replyOf replied)
  noted _ _ := List.prefix_rfl

theorem plain_filing (result : Except Fault Unit) : Plain (result.map fun _ => .done) := by
  cases result with
  | error fault => exact plain_error fault
  | ok => exact plain_done

theorem tidy_filing (usage : CommandUsage) (change : List String → Scene → StoreChange) :
    (filing usage change).Tidy :=
  tidy_changing usage (fun _ _ => rfl) fun _ _ handle replied =>
    (plain_filing _ handle replied).modest

theorem written_changeDirectory {scene after : Scene} {path : String}
    (changed : scene.changeDirectory path = .ok after) : after.written = scene.written := by
  unfold Scene.changeDirectory at changed
  cases resolved : scene.resolve path with
  | error fault => simp [resolved, bind, Except.bind] at changed
  | ok directory =>
    simp only [resolved, bind, Except.bind] at changed
    split at changed
    · cases changed
      rfl
    · cases changed

theorem written_setVariable {scene after : Scene} {name value : String}
    (changed : scene.setVariable name value = .ok after) : after.written = scene.written := by
  unfold Scene.setVariable at changed
  split at changed
  · cases changed
    rfl
  · cases changed

theorem written_envLines (lines args : List String) (scene : Scene) :
    (envLines lines args scene).1.written = scene.written := by
  induction args generalizing lines scene with
  | nil => rfl
  | cons arg rest ih =>
    rw [envLines]
    split
    · split
      · rename_i set
        rw [ih, written_setVariable set]
      · rfl
    · exact ih _ _

theorem plain_cd (args : List String) (scene : Scene) : Plain (cd args scene).2 := by
  unfold cd
  split
  · split
    · exact plain_done
    · exact plain_error _
  · exact plain_error _

theorem plain_env (args : List String) (scene : Scene) : Plain (env args scene).2 := by
  unfold env
  split
  · exact plain_say _
  · split
    · exact plain_error _
    · simp only
      split
      · exact plain_done
      · exact plain_say _

theorem tidy_cd (usage : CommandUsage) : (changing usage cd).Tidy := by
  refine tidy_changing usage (fun args scene => ?_) fun args scene handle replied =>
    (plain_cd args scene handle replied).modest
  unfold cd
  split
  · split
    · rename_i changed
      exact written_changeDirectory changed
    · rfl
  · rfl

theorem tidy_env (usage : CommandUsage) : (changing usage env).Tidy := by
  refine tidy_changing usage (fun args scene => ?_) fun args scene handle replied =>
    (plain_env args scene handle replied).modest
  have lines := written_envLines [] args scene
  unfold env
  split
  · rfl
  · split <;> simpa [*] using lines

/-! ## Commands that run programs -/

theorem modest_awaitJob (number : Nat) : (Handle.task (awaitJob number)).Modest := by
  intro scene
  unfold awaitJob
  split
  · rfl
  · simp only
    split <;> rfl

theorem handle_exec {args : List String} {scene : Scene} {handle : Handle}
    (replied : (exec args scene).2 = .ok (.handle handle)) :
    ∃ number, handle = .task (awaitJob number) := by
  unfold exec at replied
  split at replied
  · cases replied
  · split at replied
    · cases replied
    · cases replied
      exact ⟨_, rfl⟩

theorem tidy_exec (usage : CommandUsage) : (changing usage exec).Tidy := by
  refine tidy_changing usage (fun args scene => ?_) fun args scene handle replied => ?_
  · unfold exec
    split
    · rfl
    · split <;> rfl
  · obtain ⟨number, rfl⟩ := handle_exec replied
    exact modest_awaitJob number

/-- Unless its arguments cannot be expanded, the inner command runs on the state with one note
more. -/
theorem run_expanding {motive : State × Reply → Prop} (name : String) (inner : Command)
    (args : List String) (state : State)
    (refused : ∀ fault, motive (state, .fault (.usage fault)))
    (runs : ∀ expanded message, expandArguments args = .ok expanded →
      motive (inner.run expanded { state with
        toStage := state.toStage.note .debug .extensions message })) :
    motive ((expanding name inner).run args state) := by
  cases split : expandArguments args with
  | error fault =>
    simp only [Command.run, expanding, split]
    exact refused fault
  | ok expanded =>
    simp only [Command.run, expanding, split]
    exact runs expanded _ split

theorem tidy_expanding (name : String) {inner : Command} (tidy : inner.Tidy) :
    (expanding name inner).Tidy := by
  constructor
  · constructor
    · intro args state
      exact run_expanding (motive := (·.1.background = state.background)) name inner args state
        (fun _ => rfl) fun expanded _ _ => tidy.background expanded _
    · intro args state
      exact run_expanding (motive := (·.1.written = state.written)) name inner args state
        (fun _ => rfl) fun expanded _ _ => tidy.written expanded _
    · intro args state handle
      exact run_expanding (motive := (·.2 = .handle handle → handle.Modest)) name inner args state
        (by simp) fun expanded _ _ => tidy.handles expanded _ handle
  · intro args state
    exact run_expanding (motive := (state.diagnostics <+: ·.1.diagnostics)) name inner args state
      (fun _ => List.prefix_rfl) fun expanded message _ =>
        List.IsPrefix.trans ⟨_, rfl⟩ (tidy.noted expanded
          { state with toStage := state.toStage.note .debug .extensions message })

/-! ## The tables -/

theorem tidy_commands : ∀ entry ∈ commands.entries, entry.2.Tidy := by
  simp only [commands, List.forall_mem_cons]
  exact ⟨tidy_looking _ plain_cat, tidy_cd _, tidy_filing _ _,
    tidy_looking _ fun _ _ => plain_say _, tidy_env _, tidy_exec _,
    tidy_looking _ plain_exists, tidy_looking _ fun _ _ => plain_search _ _ _,
    tidy_looking _ plain_help, tidy_filing _ _, tidy_filing _ _,
    tidy_looking _ plain_pwd, tidy_filing _ _, tidy_looking _ plain_sleep,
    tidy_looking _ fun _ _ => plain_search _ _ _,
    tidy_looking _ fun _ _ => plain_search _ _ _,
    tidy_looking _ fun _ _ => plain_error _, tidy_looking _ plain_wait, by simp⟩

end Builtin

namespace Engine

/-- Scripts get one command on top of those that an engine knows. -/
theorem find?_extend {engine : Engine} {naming : Builtin.Naming} {name : String} {command : Command}
    (found : (engine.extend naming).commands.find? name = some command) :
    name = "execx" ∧ command = Builtin.expanding "execx"
        ((engine.commands.find? "exec").getD Builtin.execCommand) ∨
      engine.commands.find? name = some command := by
  by_cases new : name = "execx"
  · subst new
    rw [extend, Table.find?_insert_self] at found
    exact .inl ⟨rfl, (Option.some.inj found).symm⟩
  · rw [extend, Table.find?_insert_ne _ new] at found
    exact .inr found

theorem tidy_standard {name : String} {command : Command}
    (found : standard.commands.find? name = some command) : command.Tidy :=
  Builtin.tidy_commands (name, command) (Table.mem_of_find? found)

theorem tidy_extend (naming : Builtin.Naming) {name : String} {command : Command}
    (found : (standard.extend naming).commands.find? name = some command) : command.Tidy := by
  obtain ⟨_, rfl⟩ | known := find?_extend found
  · exact Builtin.tidy_expanding "execx" (Builtin.tidy_exec _)
  · exact tidy_standard known

theorem discreet_extend (naming : Builtin.Naming) : (standard.extend naming).Discreet :=
  fun _ _ found => (tidy_extend naming found).discreet

end Engine

end LineScript
