import LineScript.Proofs.Steps
import LineScript.Proofs.Waiting

/-!
# Scripts in a row
Executing two scripts as one is executing them one after the other, if the first comes to its end
with nothing left in the background; if it comes to its end before its last line, the second makes
no difference (`execute_append`). The lines of the second are counted from the beginning of the
first, and nothing but the numbers of lines tells one way from the other. Lines that are not
finished come to their end at one of them (`runLines_ends_at`).
-/
namespace LineScript

/-- Two states that differ at most in the notes. -/
def State.SameButNotes (state other : State) : Prop :=
  ∃ notes, other = { state with diagnostics := notes }

/-- How lines end that `count` lines have been read before. -/
def Ending.later (count : Nat) : Ending → Ending
  | .finished lineno => .finished (lineno + count)
  | .stopped lineno => .stopped (lineno + count)
  | .failed lineno text cause => .failed (lineno + count) text cause
  | .escaped fault => .escaped fault

/-- How lines end whose last one is gone on from like this. -/
def Sequel.ending (lineno : Nat) : Sequel → Ending
  | .next => .finished lineno
  | .stop => .stopped lineno
  | .fail text cause => .failed lineno text cause
  | .escape fault => .escaped fault

/-- How a script ends without and with `count` lines before it. Only a fault that names a line of
the script differs; a fault that names none comes from the source, or is none of scripts, or is
what a handle in the background ended in instead of a failure of its command. -/
inductive EndsLater (count : Nat) (name : String) (source : Source) (trace : Trace) :
    Except Fault Unit → Except Fault Unit → Prop
  | well : EndsLater count name source trace (.ok ()) (.ok ())
  | located (lineno : Nat) (text : String) (cause : Fault) :
    EndsLater count name source trace (.error (.execution name lineno text cause))
      (.error (.execution name (lineno + count) text cause))
  | foreign (fault : Fault)
    (outside : source.failure = some fault ∨ fault.isScript = false ∨
      Outcome.ofFault? fault = none ∧ ∃ handle, .collected handle (.error fault) ∈ trace) :
    EndsLater count name source trace (.error fault) (.error fault)

/-! ## What lines keep -/

namespace Engine

private theorem concludeFault_manual (want : Script.Expect) (state : State) (fault : Fault) :
    (concludeFault want state fault).1.manual = state.manual := by
  unfold concludeFault
  split <;> rfl

private theorem concludeResult_manual (want : Script.Expect) (state : State)
    (result : Except Fault Output) : (concludeResult want state result).1.manual = state.manual := by
  cases result with
  | ok output => rfl
  | error fault => exact concludeFault_manual want state fault

private theorem handleReply_manual (line : Script.Line) (state : State) (reply : Reply) :
    (handleReply line state reply).1.manual = state.manual := by
  cases reply with
  | done => rfl
  | fault fault => exact concludeFault_manual line.want state fault
  | handle handle =>
    rw [handleReply]
    by_cases background : line.background = true
    · rw [if_pos background]
    · rw [if_neg background]
      have awaited : (state.await handle).1.manual = state.manual := by
        cases handle <;> rfl
      exact (concludeResult_manual line.want _ _).trans awaited

private theorem step_manual (engine : Engine) (raw : String) (state : State) :
    (engine.step raw state).state.manual = state.manual := by
  rcases engine.step_cases raw state with
    ⟨trace, sequel, _, _, stepped⟩ | ⟨trace, line, command, after, reply, _, _, replied, stepped⟩
  · rw [stepped]
  · have kept : after.manual = state.manual := by
      cases replied
      rfl
    obtain ⟨last, sequel, _, _, made⟩ := Step.ofEffect_spec line.raw
      (Effect.after (trace ++ [.called line reply]) (handleReply line after reply))
    rw [stepped, made]
    exact (handleReply_manual line after reply).trans kept

private theorem isScript_of_escape {engine : Engine} {raw : String} {state : State} {fault : Fault}
    (escaped : (engine.step raw state).sequel = .escape fault) : fault.isScript = false := by
  rcases engine.step_cases raw state with
    ⟨trace, sequel, _, kept, stepped⟩ | ⟨trace, line, command, after, reply, _, _, _, stepped⟩
  · rw [stepped] at escaped
    exact absurd escaped (kept fault)
  · obtain ⟨last, sequel, _, escaping, made⟩ := Step.ofEffect_spec line.raw
      (Effect.after (trace ++ [.called line reply]) (handleReply line after reply))
    rw [stepped, made] at escaped
    exact (escaping fault escaped).2.1

/-- Nothing that a line calls changes which manual is at hand. -/
theorem runLines_manual (engine : Engine) (name : String) (count : Nat) (lines : List String)
    (state : State) : (engine.runLines name count lines state).state.manual = state.manual := by
  induction lines generalizing count state with
  | nil => rfl
  | cons raw rest ih =>
    have kept := engine.step_manual raw state
    rw [runLines]
    cases sequel : (engine.step raw state).sequel with
    | next => simpa only [sequel, Progress.after] using (ih _ _).trans kept
    | stop =>
      simp only
      exact kept
    | fail text cause => simpa only [sequel] using kept
    | escape fault => simpa only [sequel] using kept

/-- What escapes from lines is no fault of scripts. -/
theorem isScript_of_escaped (engine : Engine) (name : String) (count : Nat) (lines : List String)
    (state : State) {fault : Fault}
    (escaped : (engine.runLines name count lines state).ending = .escaped fault) :
    fault.isScript = false := by
  induction lines generalizing count state with
  | nil => cases escaped
  | cons raw rest ih =>
    rw [runLines] at escaped
    cases sequel : (engine.step raw state).sequel with
    | next => exact ih _ _ (by simpa only [sequel, Progress.after] using escaped)
    | stop => simp [sequel] at escaped
    | fail text cause => simp [sequel] at escaped
    | escape other =>
      simp only [sequel] at escaped
      cases escaped
      exact isScript_of_escape sequel

/-! ## Lines in a row -/

/-- All lines have been read when lines are finished. -/
theorem lineno_of_finished (engine : Engine) (name : String) (count : Nat) (lines : List String)
    (state : State) {lineno : Nat}
    (done : (engine.runLines name count lines state).ending = .finished lineno) :
    lineno = count + lines.length := by
  induction lines generalizing count state with
  | nil =>
    cases done
    rfl
  | cons raw rest ih =>
    rw [runLines] at done
    cases sequel : (engine.step raw state).sequel with
    | next =>
      have all := ih _ _ (by simpa only [sequel, Progress.after] using done)
      rw [all, List.length_cons]
      omega
    | stop => simp [sequel] at done
    | fail text cause => simp [sequel] at done
    | escape fault => simp [sequel] at done

/-- More lines go on where the lines before them are finished. -/
theorem runLines_append_of_finished (engine : Engine) (name : String) (count : Nat)
    (first rest : List String) (state : State) {lineno : Nat}
    (done : (engine.runLines name count first state).ending = .finished lineno) :
    engine.runLines name count (first ++ rest) state =
      .after (engine.runLines name count first state).trace
        (engine.runLines name lineno rest (engine.runLines name count first state).state) := by
  induction first generalizing count state with
  | nil =>
    cases done
    rfl
  | cons raw lines ih =>
    rw [List.cons_append]
    rw [runLines] at done ⊢
    cases sequel : (engine.step raw state).sequel with
    | next =>
      have later := ih _ _ (by simpa only [sequel, Progress.after] using done)
      rw [runLines]
      simp only [sequel, later, Progress.after, List.append_assoc]
    | stop => simp [sequel] at done
    | fail text cause => simp [sequel] at done
    | escape fault => simp [sequel] at done

/-- More lines make no difference where the lines before them end early. -/
theorem runLines_append_of_not_finished (engine : Engine) (name : String) (count : Nat)
    (first rest : List String) (state : State)
    (early : ∀ lineno, (engine.runLines name count first state).ending ≠ .finished lineno) :
    engine.runLines name count (first ++ rest) state = engine.runLines name count first state := by
  induction first generalizing count state with
  | nil => exact absurd rfl (early count)
  | cons raw lines ih =>
    rw [List.cons_append]
    rw [runLines] at early ⊢
    rw [runLines]
    cases sequel : (engine.step raw state).sequel with
    | next =>
      have later := ih _ _ (by simpa only [sequel, Progress.after] using early)
      simp only [later]
    | stop => rfl
    | fail text cause => rfl
    | escape fault => rfl

/-- Lines that come later do the same under higher numbers. -/
theorem runLines_later (engine : Engine) (name : String) (count more : Nat) (lines : List String)
    (state : State) :
    let early := engine.runLines name count lines state
    let late := engine.runLines name (count + more) lines state
    late.trace = early.trace ∧ late.ending = early.ending.later more ∧
      early.state.SameButNotes late.state := by
  induction lines generalizing count state with
  | nil => exact ⟨rfl, rfl, _, rfl⟩
  | cons raw rest ih =>
    have number : count + more + 1 = count + 1 + more := by omega
    simp only [runLines, number]
    cases sequel : (engine.step raw state).sequel with
    | next =>
      obtain ⟨trace, ending, same⟩ := ih (count + 1) (engine.step raw state).state
      exact ⟨by simp only [Progress.after, trace], ending, same⟩
    | stop => exact ⟨rfl, rfl, _, rfl⟩
    | fail text cause => exact ⟨rfl, rfl, _, rfl⟩
    | escape fault => exact ⟨rfl, rfl, _, rfl⟩

/-! ## The line at which lines end -/

theorem ending_single (engine : Engine) (name : String) (count : Nat) (raw : String)
    (state : State) : (engine.runLines name count [raw] state).ending =
      (engine.step raw state).sequel.ending (count + 1) := by
  rw [runLines]
  cases (engine.step raw state).sequel <;> rfl

theorem trace_single (engine : Engine) (name : String) (count : Nat) (raw : String)
    (state : State) :
    (engine.runLines name count [raw] state).trace = (engine.step raw state).trace := by
  rw [runLines]
  cases (engine.step raw state).sequel with
  | next => exact List.append_nil _
  | _ => rfl

/-- Lines that are not finished end at one of them, and do what they do up to there. -/
theorem runLines_ends_at {engine : Engine} {name : String} {count : Nat} {lines : List String}
    {state : State}
    (early : ∀ lineno, (engine.runLines name count lines state).ending ≠ .finished lineno) :
    ∃ index raw, lines[index]? = some raw ∧
      let before := engine.runLines name count (lines.take index) state
      before.ending = .finished (count + index) ∧
        engine.runLines name count lines state =
          .after before.trace (engine.runLines name (count + index) [raw] before.state) := by
  -- The end is at the first line if this does not go on, and else where the lines behind it end.
  induction lines generalizing count state with
  | nil => exact absurd rfl (early count)
  | cons raw rest ih =>
    by_cases goes : (engine.step raw state).sequel = .next
    · have later : ∀ lineno, (engine.runLines name (count + 1) rest
          (engine.step raw state).state).ending ≠ .finished lineno := by
        intro lineno finished
        apply early lineno
        rw [runLines]
        simpa only [goes, Progress.after] using finished
      obtain ⟨index, last, there, before, same⟩ := ih later
      have number : count + 1 + index = count + (index + 1) := by omega
      rw [number] at before same
      refine ⟨index + 1, last, there, ?_, ?_⟩
      · rw [List.take_succ_cons, runLines]
        simpa only [goes, Progress.after] using before
      · rw [List.take_succ_cons, runLines]
        conv => rhs; rw [runLines]
        simp only [goes, same, Progress.after, List.append_assoc]
    · refine ⟨0, raw, rfl, rfl, ?_⟩
      show engine.runLines name count (raw :: rest) state =
        .after [] (engine.runLines name count [raw] state)
      rw [runLines, runLines]
      cases sequel : (engine.step raw state).sequel with
      | next => exact absurd sequel goes
      | _ => rfl

end Engine

/-! ## Ends of scripts -/

namespace State

private theorem join_notes (state : State) (notes : List Diagnostic) :
    ({ state with diagnostics := notes } : State).join =
      ({ state.join.1 with diagnostics := notes }, state.join.2) := rfl

private theorem finish_later {state other : State} (same : state.SameButNotes other)
    (name : String) (source : Source) (lineno count : Nat) :
    let early := state.finish name lineno
    let late := other.finish name (lineno + count)
    late.trace = early.trace ∧ early.state.SameButNotes late.state ∧
      EndsLater count name source early.trace early.result late.result := by
  obtain ⟨notes, rfl⟩ := same
  unfold finish
  by_cases idle : state.background.isEmpty = true
  · simp only [idle, if_true, true_and]
    exact ⟨⟨notes, rfl⟩, .well⟩
  · simp only [idle, join_notes]
    have broken := @collected_of_join_error state
    generalize state.join = joined at broken ⊢
    rcases joined with ⟨after, trace, fault | output⟩
    · cases fault with
      | command failure output => exact ⟨rfl, ⟨notes, rfl⟩, .located lineno "wait" _⟩
      | _ => exact ⟨rfl, ⟨notes, rfl⟩, .foreign _ (.inr (.inr ⟨rfl, broken rfl rfl⟩))⟩
    · exact ⟨rfl, ⟨notes, rfl⟩, .well⟩

private theorem abandon_later {state other : State} (same : state.SameButNotes other)
    {name : String} {source : Source} {count : Nat} {reason moved : Fault}
    (later : ∀ trace, EndsLater count name source trace (.error reason) (.error moved)) :
    let early := state.abandon reason
    let late := other.abandon moved
    late.trace = early.trace ∧ early.state.SameButNotes late.state ∧
      EndsLater count name source early.trace early.result late.result := by
  obtain ⟨notes, rfl⟩ := same
  unfold abandon
  by_cases idle : state.background.isEmpty = true
  · simp only [idle, if_true, true_and]
    exact ⟨⟨notes, rfl⟩, later []⟩
  · simp only [idle, join_notes]
    have broken := @collected_of_join_error state
    generalize state.join = joined at broken ⊢
    rcases joined with ⟨after, trace, fault | output⟩
    · cases fault with
      | command failure output => exact ⟨rfl, ⟨_, rfl⟩, later _⟩
      | _ => exact ⟨rfl, ⟨notes, rfl⟩, .foreign _ (.inr (.inr ⟨rfl, broken rfl rfl⟩))⟩
    · exact ⟨rfl, ⟨notes, rfl⟩, later trace⟩

end State

/-- A script ends the same way, `count` lines later, where its lines end that much later. -/
theorem Ending.run_later (ending : Ending) {state other : State} (same : state.SameButNotes other)
    (name : String) (source : Source) (count : Nat)
    (foreign : ∀ fault, ending = .escaped fault → fault.isScript = false) :
    let early := ending.run name source.failure state
    let late := (ending.later count).run name source.failure other
    late.trace = early.trace ∧ early.state.SameButNotes late.state ∧
      EndsLater count name source early.trace early.result late.result := by
  cases ending with
  | finished lineno =>
    rcases failure : source.failure with _ | fault
    · exact State.finish_later same name source lineno count
    · have kept (trace : Trace) :
          EndsLater count name source trace (.error fault) (.error fault) :=
        .foreign fault (.inl failure)
      rcases state.interrupt_cases fault with ⟨execution, ended⟩ | ⟨raised, ended⟩
      · simp only [later, run, State.interrupt, execution, if_true]
        exact State.abandon_later same kept
      · simp only [later, run, State.interrupt, raised]
        exact ⟨rfl, same, kept []⟩
  | stopped lineno => exact State.finish_later same name source lineno count
  | failed lineno text cause => exact State.abandon_later same fun _ => .located lineno text cause
  | escaped fault => exact ⟨rfl, same, .foreign fault (.inr (.inl (foreign fault rfl)))⟩

/-! ## Scripts in a row -/

theorem EndsLater.mono {count : Nat} {name : String} {source : Source} {trace more : Trace}
    {early late : Except Fault Unit} (ends : EndsLater count name source trace early late)
    (within : ∀ event ∈ trace, event ∈ more) : EndsLater count name source more early late := by
  cases ends with
  | well => exact .well
  | located lineno text cause => exact .located lineno text cause
  | foreign fault outside =>
    rcases outside with unread | escaped | ⟨untold, handle, collected⟩
    · exact .foreign fault (.inl unread)
    · exact .foreign fault (.inr (.inl escaped))
    · exact .foreign fault (.inr (.inr ⟨untold, handle, within _ collected⟩))

theorem Trace.log_append (first second : Trace) :
    (first ++ second).log = first.log ++ second.log := by
  simp [log, entries, String.join_append]

private theorem abandon_fails (state : State) (fault : Fault) :
    (state.abandon fault).result ≠ .ok () := by
  have ends := state.abandons fault
  generalize state.abandon fault = run at ends
  rintro well
  cases ends <;> cases well

private theorem finished_of_ok {engine : Engine} {name : String} {lines : List String}
    {state : State} (well : (engine.execute name (.ofLines lines) state).result = .ok ())
    (unstopped : ∀ lineno, (engine.advance name lines state).ending ≠ .stopped lineno) :
    (engine.advance name lines state).ending = .finished lines.length := by
  simp only [Engine.execute, Run.after, Source.ofLines] at well
  cases ended : (engine.advance name lines state).ending with
  | finished lineno =>
    have all := engine.lineno_of_finished name 0 lines _ ended
    rw [all, Nat.zero_add]
  | stopped lineno => exact absurd ended (unstopped lineno)
  | failed lineno text cause =>
    rw [ended] at well
    exact absurd well (abandon_fails _ _)
  | escaped fault =>
    rw [ended] at well
    cases well

private theorem attach_advance (engine : Engine) (name : String) (lines : List String)
    (state : State) : engine.attach (engine.advance name lines state).state =
      (engine.advance name lines state).state := by
  have kept := engine.runLines_manual name 0 lines (engine.attach state)
  unfold Engine.advance
  generalize (engine.runLines name 0 lines (engine.attach state)).state = after at kept ⊢
  obtain ⟨stage, manual⟩ := after
  cases kept
  rfl

/-- What is left of a script does the same with `count` lines more before it, and ends that much
later. -/
theorem Engine.runs_later (engine : Engine) (name : String) (source : Source) (start count : Nat)
    (state : State) :
    let early := engine.runLines name start source.lines state
    let late := engine.runLines name (start + count) source.lines state
    let earlier := Run.after early.trace (early.ending.run name source.failure early.state)
    let later := Run.after late.trace (late.ending.run name source.failure late.state)
    later.trace = earlier.trace ∧ earlier.state.SameButNotes later.state ∧
      EndsLater count name source earlier.trace earlier.result later.result := by
  intro early late earlier later
  obtain ⟨happened, ending, same⟩ : late.trace = early.trace ∧
      late.ending = early.ending.later count ∧ early.state.SameButNotes late.state :=
    engine.runLines_later name start count source.lines state
  have foreign (fault : Fault) (escaped : early.ending = .escaped fault) :=
    engine.isScript_of_escaped name start source.lines state escaped
  obtain ⟨closing, kept, ends⟩ := early.ending.run_later same name source count foreign
  have shape : later =
      .after early.trace ((early.ending.later count).run name source.failure late.state) := by
    simp only [later, happened, ending]
  rw [shape]
  refine ⟨?_, kept, ends.mono ?_⟩
  · simp only [earlier, Run.after, closing]
  · intro event member
    exact List.mem_append_right _ member

/-- A script that is finished with nothing in the background ends well where its lines end. -/
private theorem execute_of_finished {engine : Engine} {name : String} {lines : List String}
    {state : State} {lineno : Nat}
    (done : (engine.advance name lines state).ending = .finished lineno)
    (idle : (engine.advance name lines state).state.background = []) :
    engine.execute name (.ofLines lines) state =
      ⟨(engine.advance name lines state).state, (engine.advance name lines state).trace, .ok ()⟩ := by
  show Run.after (engine.advance name lines state).trace
    ((engine.advance name lines state).ending.run name none
      (engine.advance name lines state).state) = _
  simp [done, Ending.run, State.finish, idle, Run.after]

/-- Lines behind a script that is finished go on from where its lines end, counting from there. -/
theorem Engine.execute_append_of_finished {engine : Engine} {name : String} {first : List String}
    {state : State} (rest : Source)
    (done : (engine.advance name first state).ending = .finished first.length) :
    let reached := engine.advance name first state
    let late := engine.runLines name (0 + first.length) rest.lines reached.state
    engine.execute name ⟨first ++ rest.lines, rest.failure⟩ state =
      .after reached.trace (.after late.trace (late.ending.run name rest.failure late.state)) := by
  intro reached late
  have row := engine.runLines_append_of_finished name 0 first rest.lines _ done
  simp only [Engine.execute, Engine.advance, row, Progress.after, Run.after, late,
    List.append_assoc, Nat.zero_add]
  rfl

/-- Whether the source can be read to its end is of no matter to lines that end early. -/
theorem run_of_not_finished {ending : Ending} (early : ∀ lineno, ending ≠ .finished lineno)
    (name : String) (failure : Option Fault) (state : State) :
    ending.run name failure state = ending.run name none state := by
  cases ending with
  | finished lineno => exact absurd rfl (early lineno)
  | stopped lineno => rfl
  | failed lineno text cause => rfl
  | escaped fault => rfl

/-- Two scripts in a row do what the second does after the first, if the first is finished with
nothing in the background; the second counts its lines from the beginning of the first. If the
first is not finished, the second makes no difference, whatever its lines are and even if reading
it would fail. -/
theorem Engine.execute_append (engine : Engine) (name : String) (first : List String)
    (rest : Source) (state : State) :
    let before := engine.execute name (.ofLines first) state
    let reached := engine.advance name first state
    let whole := engine.execute name ⟨first ++ rest.lines, rest.failure⟩ state
    (before.result = .ok () → (∀ lineno, reached.ending ≠ .stopped lineno) →
      reached.state.background = [] →
      let after := engine.execute name rest before.state
      after.state.SameButNotes whole.state ∧ whole.trace = before.trace ++ after.trace ∧
        whole.trace.log = before.trace.log ++ after.trace.log ∧
        EndsLater first.length name rest after.trace after.result whole.result) ∧
    ((∀ lineno, reached.ending ≠ .finished lineno) → whole = before) := by
  intro before reached whole
  constructor
  · intro well unstopped idle after
    have done : reached.ending = .finished first.length := finished_of_ok well unstopped
    have ended : before = ⟨reached.state, reached.trace, .ok ()⟩ := execute_of_finished done idle
    let early := engine.runLines name 0 rest.lines reached.state
    let late := engine.runLines name (0 + first.length) rest.lines reached.state
    -- The manual is at hand already when the second script begins.
    have second : after = .after early.trace (early.ending.run name rest.failure early.state) := by
      show engine.execute name rest before.state = _
      rw [ended, execute, advance, attach_advance]
    have joint : whole = .after reached.trace
        (.after late.trace (late.ending.run name rest.failure late.state)) :=
      execute_append_of_finished rest done
    obtain ⟨happened, same, ends⟩ := runs_later engine name rest 0 first.length reached.state
    have trace : whole.trace = before.trace ++ after.trace := by
      rw [joint, ended, second]
      exact congrArg (reached.trace ++ ·) happened
    refine ⟨?_, trace, by rw [trace, Trace.log_append], ?_⟩
    · rw [joint, second]
      exact same
    · rw [joint, second]
      exact ends
  · intro early
    have row : engine.advance name (first ++ rest.lines) state = reached :=
      engine.runLines_append_of_not_finished name 0 first rest.lines _ early
    show engine.execute name ⟨first ++ rest.lines, rest.failure⟩ state = before
    simp only [execute, row]
    exact congrArg (Run.after reached.trace) (run_of_not_finished early name rest.failure _)

/-- A line that cannot be read is the second one after a comment; and it makes no difference after
a line that is canceled. -/
theorem Engine.execute_append_unread :
    let engine : Engine := ⟨.empty, .empty⟩
    let state := State.start .empty "/" .empty
    let canceled : State := { state with scopes := state.scopes.cancel 1 }
    let rest : Source := .ofLines ["'\n"]
    let whole := engine.execute "s" (.ofLines ["# a\n", "'\n"]) state
    (engine.execute "s" rest state).result =
        .error (.execution "s" 1 "'" (.parse .unterminatedQuote)) ∧
      EndsLater 1 "s" rest (engine.execute "s" rest state).trace
        (engine.execute "s" rest state).result whole.result ∧
      engine.execute "s" (.ofLines ["a\n", "'\n"]) canceled =
        engine.execute "s" (.ofLines ["a\n"]) canceled := by
  intro engine state canceled rest whole
  have finished := (engine.execute_append "s" ["# a\n"] rest state).1
  have failed := (engine.execute_append "s" ["a\n"] rest canceled).2
  obtain ⟨_, _, _, ends⟩ := finished rfl (fun _ => Ending.noConfusion) rfl
  exact ⟨rfl, ends, failed fun _ => Ending.noConfusion⟩

end LineScript
