import LineScript.Proofs.Collection

/-!
# Moves of an engine
Whatever a script does to a state, it does in moves of a few kinds: the log and the notes are
written to, output is recorded, a command is called, and its handle is awaited or goes into the
background, from where it is collected (`execute_moves`). What holds of every move holds of every
execution: so, if commands hand back handles of one kind only, no others are ever in the background
(`Moves.holds`).
-/
namespace LineScript

/-- The ways from one state to another that an engine can go, with what happens meanwhile. -/
inductive Engine.Moves (engine : Engine) : State → Trace → State → Prop where
  | quiet (state : State) {trace : Trace} (quiet : trace.Quiet) : Moves engine state trace state
  | attach (state : State) : Moves engine state [] (engine.attach state)
  | note (state : State) (severity : Severity) (message : String) :
    Moves engine state [] (state.note severity message)
  | record (state : State) (output : Output) : Moves engine state [] (state.record output)
  /-- A command is done at once, or raises a fault. -/
  | call {line : Script.Line} {command : Command} {state after : State} {reply : Reply}
    (found : engine.commands.find? line.name = some command)
    (replied : command.run line.args state = (after, reply))
    (plain : ∀ handle, reply ≠ .handle handle) : Moves engine state [.called line reply] after
  /-- The handle of a command goes into the background. -/
  | send {line : Script.Line} {command : Command} {state after : State} {handle : Handle}
    (found : engine.commands.find? line.name = some command)
    (replied : command.run line.args state = (after, .handle handle))
    (background : line.background = true) : Moves engine state [.called line (.handle handle)]
      { after with background := after.background ++ [⟨line.raw, handle, line.want⟩] }
  /-- The task of a command is awaited at once. -/
  | await {line : Script.Line} {command : Command} {state after : State}
    {run : Scene → Scene × Except Fault Output}
    (found : engine.commands.find? line.name = some command)
    (replied : command.run line.args state = (after, .handle (.task run)))
    (foreground : line.background = false) : Moves engine state
      [.called line (.handle (.task run)), .awaited (.task run) (run after.toScene).2]
      { after with toScene := (run after.toScene).1 }
  /-- A command asks to wait for the background. -/
  | wait {line : Script.Line} {command : Command} {state after : State}
    (result : Except Fault Output)
    (found : engine.commands.find? line.name = some command)
    (replied : command.run line.args state = (after, .handle .join))
    (foreground : line.background = false) :
    Moves engine state [.called line (.handle .join), .awaited .join result] after
  | join (state : State) : Moves engine state state.join.2.1 state.join.1
  | trans {state between after : State} {first second : Trace}
    (early : Moves engine state first between) (late : Moves engine between second after) :
    Moves engine state (first ++ second) after

namespace Engine
open Trace

variable {engine : Engine}

theorem Moves.refl (state : State) : engine.Moves state [] state := .quiet state quiet_nil

/-- A note at the end takes no event. -/
theorem Moves.noted {state after : State} {trace : Trace} (moves : engine.Moves state trace after)
    (severity : Severity) (message : String) :
    engine.Moves state trace (after.note severity message) := by
  simpa using moves.trans (.note after severity message)

/-! ## Lines -/

theorem conclude_moves (want : Script.Expect) (state : State) (outcome : Outcome) :
    engine.Moves state (conclude want state outcome).2.1 (conclude want state outcome).1 :=
  .trans (.record state outcome.output) (.quiet _ (quiet_ofEntries _))

theorem concludeFault_moves (want : Script.Expect) (state : State) (fault : Fault) :
    engine.Moves state (concludeFault want state fault).2.1 (concludeFault want state fault).1 := by
  unfold concludeFault
  split
  · exact conclude_moves want state _
  · exact .refl state

theorem concludeResult_moves (want : Script.Expect) (state : State)
    (result : Except Fault Output) : engine.Moves state (concludeResult want state result).2.1
      (concludeResult want state result).1 := by
  cases result with
  | ok output => exact conclude_moves want state ⟨output, none⟩
  | error fault => exact concludeFault_moves want state fault

theorem handleReply_moves {line : Script.Line} {command : Command} {state after : State}
    {reply : Reply} (found : engine.commands.find? line.name = some command)
    (replied : command.run line.args state = (after, reply)) :
    engine.Moves state (.called line reply :: (handleReply line after reply).2.1)
      (handleReply line after reply).1 := by
  cases reply with
  | done => exact .call found replied (by simp)
  | fault fault =>
    have called : engine.Moves state [.called line (.fault fault)] after :=
      .call found replied (by simp)
    exact called.trans (concludeFault_moves line.want after fault)
  | handle handle =>
    cases placed : line.background with
    | true =>
      rw [handleReply, if_pos placed]
      exact .send found replied placed
    | false =>
      rw [handleReply, if_neg (by simp [placed])]
      cases handle with
      | task run =>
        have awaited := Moves.await found replied placed
        exact awaited.trans (concludeResult_moves line.want _ _)
      | join =>
        have asked := Moves.wait after.join.2.2 found replied placed
        exact asked.trans ((Moves.join after).trans (concludeResult_moves line.want _ _))

theorem step_moves (raw : String) (state : State) :
    engine.Moves state (engine.step raw state).trace (engine.step raw state).state := by
  rcases engine.step_cases raw state with
    ⟨trace, sequel, quiet, _, stepped⟩ |
    ⟨trace, line, command, after, reply, quiet, found, replied, stepped⟩
  · rw [stepped]
    exact .quiet state quiet
  · obtain ⟨last, sequel, silent, _, made⟩ := Step.ofEffect_spec line.raw
      (Effect.after (trace ++ [.called line reply]) (handleReply line after reply))
    rw [stepped, made]
    have called := (Moves.quiet state quiet).trans (handleReply_moves found replied)
    simpa [Effect.after] using called.trans (.quiet _ silent)

theorem runLines_moves (name : String) (count : Nat) (lines : List String) (state : State) :
    engine.Moves state (engine.runLines name count lines state).trace
      (engine.runLines name count lines state).state := by
  induction lines generalizing count state with
  | nil => exact .refl state
  | cons raw rest ih =>
    have stepped := engine.step_moves raw state
    rw [runLines]
    cases (engine.step raw state).sequel with
    | next => exact stepped.trans (ih (count + 1) _)
    | stop => exact stepped.noted _ _
    | fail text cause => exact stepped
    | escape fault => exact stepped

theorem advance_moves (name : String) (lines : List String) (state : State) :
    engine.Moves state (engine.advance name lines state).trace
      (engine.advance name lines state).state :=
  .trans (.attach state) (runLines_moves name 0 lines _)

/-! ## Ends of scripts -/

theorem finish_moves (state : State) (name : String) (lineno : Nat) :
    engine.Moves state (state.finish name lineno).trace (state.finish name lineno).state := by
  have waited : engine.Moves state state.join.2.1 state.join.1 := .join state
  have recorded (output : Output) (entries : List Entry) :
      engine.Moves state (state.join.2.1 ++ .ofEntries entries) (state.join.1.record output) :=
    waited.trans (.trans (.record _ output) (.quiet _ (quiet_ofEntries entries)))
  have ends := state.finishes name lineno
  generalize state.finish name lineno = run at ends ⊢
  cases ends with
  | idle => exact .refl state
  | ended => exact recorded _ _
  | failed => exact recorded _ _
  | broken => exact waited

theorem abandon_moves (state : State) (fault : Fault) :
    engine.Moves state (state.abandon fault).trace (state.abandon fault).state := by
  have waited : engine.Moves state state.join.2.1 state.join.1 := .join state
  have ends := state.abandons fault
  generalize state.abandon fault = run at ends ⊢
  cases ends with
  | idle => exact .refl state
  | ended => exact waited
  | @failed failure output joined =>
    have logged := quiet_ofEntries [.note ("background: " ++ failure.message)]
    exact (waited.trans (.quiet _ logged)).noted _ _
  | broken => exact waited

theorem interrupt_moves (state : State) (fault : Fault) :
    engine.Moves state (state.interrupt fault).trace (state.interrupt fault).state := by
  rcases state.interrupt_cases fault with ⟨_, ended⟩ | ⟨_, ended⟩
  · rw [ended]
    exact abandon_moves state fault
  · rw [ended]
    exact .refl state

theorem run_moves (name : String) (failure : Option Fault) (state : State) (ending : Ending) :
    engine.Moves state (ending.run name failure state).trace
      (ending.run name failure state).state := by
  cases ending with
  | finished lineno => cases failure with
    | none => exact finish_moves state name lineno
    | some fault => exact interrupt_moves state fault
  | stopped lineno => exact finish_moves state name lineno
  | failed lineno text cause => exact abandon_moves state _
  | escaped fault => exact .refl state

/-- An execution is made of moves, however it ends. -/
theorem execute_moves (engine : Engine) (name : String) (source : Source) (state : State) :
    engine.Moves state (engine.execute name source state).trace
      (engine.execute name source state).state :=
  (advance_moves name source.lines state).trans (run_moves name source.failure _ _)

end Engine

/-! ## Handles of one kind -/

/-- Everything in the background is of a kind. -/
def State.Holds (kind : Handle → Prop) (state : State) : Prop :=
  ∀ handle ∈ state.outstanding, kind handle

theorem awaitAll_keeps {kept : Scene → Prop} (pending : List Pending)
    (keeps : ∀ one ∈ pending, ∀ scene, kept scene → kept (one.handle.await scene).1) {scene : Scene}
    (before : kept scene) : kept (awaitAll pending scene).1 := by
  induction pending generalizing scene with
  | nil => exact before
  | cons first rest ih =>
    have next := keeps first (by simp) scene before
    cases known : Outcome.ofResult (first.handle.await scene).2 with
    | error fault => rwa [awaitAll_of_error known]
    | ok outcome =>
      rw [awaitAll_of_ok known]
      exact ih (fun one member => keeps one (List.mem_cons_of_mem _ member)) next

/-- What handles of a kind keep is kept by a wait for a background that holds no others. -/
theorem State.Holds.join {kind : Handle → Prop} {state : State} (holds : state.Holds kind)
    (kept : Scene → Prop)
    (keeps : ∀ handle, kind handle → ∀ scene, kept scene → kept (handle.await scene).1)
    (before : kept state.toScene) : kept state.join.1.toScene :=
  awaitAll_keeps state.background
    (fun one member => keeps one.handle (holds _ (List.mem_map_of_mem member))) before

/-- A command that replies with handles of a kind only, and leaves no others in the background if it
finds no others there. -/
structure Command.Hands (kind : Handle → Prop) (command : Command) : Prop where
  background : ∀ args state, state.Holds kind → (command.run args state).1.Holds kind
  handles : ∀ args state handle, (command.run args state).2 = .handle handle → kind handle

/-- An engine whose commands all hand back handles of a kind only. -/
def Engine.Hands (kind : Handle → Prop) (engine : Engine) : Prop :=
  ∀ name command, engine.commands.find? name = some command → command.Hands kind

theorem State.outstanding_send (state : State) (pending : Pending) :
    State.outstanding { state with background := state.background ++ [pending] } =
      state.outstanding ++ [pending.handle] := List.map_append

section
variable {engine : Engine} {kind : Handle → Prop} {state after : State}

/-- A command of the engine leaves handles of the kind only, and so is the one it replies with. -/
theorem Engine.Hands.run (hands : engine.Hands kind) {line : Script.Line} {command : Command}
    {reply : Reply} (found : engine.commands.find? line.name = some command)
    (replied : command.run line.args state = (after, reply)) (holds : state.Holds kind) :
    after.Holds kind ∧ ∀ handle, reply = .handle handle → kind handle := by
  have background := (hands _ _ found).background line.args state holds
  have handles := (hands _ _ found).handles line.args state
  rw [replied] at background handles
  exact ⟨background, handles⟩

/-- No move brings a handle of another kind into the background. -/
theorem Engine.Moves.holds {trace : Trace} (hands : engine.Hands kind)
    (moves : engine.Moves state trace after) (holds : state.Holds kind) : after.Holds kind := by
  induction moves with
  | quiet | attach | note | record => exact holds
  | call found replied _ => exact (hands.run found replied holds).1
  | send found replied _ =>
    obtain ⟨still, own⟩ := hands.run found replied holds
    intro one member
    rw [State.outstanding_send] at member
    rcases List.mem_append.mp member with early | late
    · exact still one early
    · rw [List.mem_singleton.mp late]
      exact own _ rfl
  | await found replied _ => exact (hands.run found replied holds).1
  | wait _ found replied _ => exact (hands.run found replied holds).1
  | join state =>
    intro one member
    simp [State.outstanding, State.join] at member
  | trans early late first second => exact second (first holds)

end

end LineScript
