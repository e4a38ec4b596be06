import LineScript.Execution

/-!
# What waiting in the background does
Commands in the background are awaited one by one, up to the first whose handle ends in something
else than output or a failure of the command (`awaitAll_of_ok`, `awaitAll_of_error`). A script waits
once more at its end (`State.finishes`, `State.abandons`).
-/
namespace LineScript

/-- A handle tells of no outcome if it ends in a fault that is no failure of a command. -/
theorem Outcome.ofResult_error {result : Except Fault Output} {fault : Fault}
    (broken : ofResult result = .error fault) :
    result = .error fault ∧ ofFault? fault = none := by
  cases result with
  | ok output => simp [ofResult] at broken
  | error other =>
    cases told : ofFault? other with
    | some outcome => simp [ofResult, told] at broken
    | none =>
      simp only [ofResult, told] at broken
      cases broken
      exact ⟨rfl, told⟩

section
variable {pending : Pending} {rest : List Pending} {scene : Scene}

theorem awaitAll_of_error {fault : Fault}
    (broken : Outcome.ofResult (pending.handle.await scene).2 = .error fault) :
    awaitAll (pending :: rest) scene = ((pending.handle.await scene).1,
      [.collected pending.handle (pending.handle.await scene).2], .error fault) := by
  rw [awaitAll]
  simp only [broken]

theorem awaitAll_of_ok {outcome : Outcome}
    (known : Outcome.ofResult (pending.handle.await scene).2 = .ok outcome) :
    awaitAll (pending :: rest) scene =
      let after := awaitAll rest (pending.handle.await scene).1
      (after.1, .collected pending.handle (pending.handle.await scene).2 :: after.2.1,
        after.2.2.map fun joined =>
          (outcome.output.append joined.1, pending.failures outcome ++ joined.2)) := by
  rw [awaitAll]
  simp only [known]

end

theorem entries_awaitAll (pending : List Pending) (scene : Scene) :
    (awaitAll pending scene).2.1.entries = [] := by
  induction pending generalizing scene with
  | nil => rfl
  | cons first rest ih =>
    cases known : Outcome.ofResult (first.handle.await scene).2 with
    | error fault =>
      rw [awaitAll_of_error known]
      rfl
    | ok outcome =>
      rw [awaitAll_of_ok known]
      exact ih _

/-- Waiting breaks off only with what a handle ended in, if that is no failure of a command. -/
theorem collected_of_awaitAll_error (pending : List Pending) (scene : Scene) {fault : Fault}
    (broken : (awaitAll pending scene).2.2 = .error fault) :
    ∃ handle, .collected handle (.error fault) ∈ (awaitAll pending scene).2.1 := by
  induction pending generalizing scene with
  | nil => simp [awaitAll] at broken
  | cons first rest ih =>
    cases known : Outcome.ofResult (first.handle.await scene).2 with
    | error other =>
      obtain ⟨ended, _⟩ := Outcome.ofResult_error known
      rw [awaitAll_of_error known] at broken ⊢
      cases broken
      exact ⟨first.handle, by simp [ended]⟩
    | ok outcome =>
      rw [awaitAll_of_ok known] at broken ⊢
      have later : (awaitAll rest (first.handle.await scene).1).2.2 = .error fault := by
        cases after : (awaitAll rest (first.handle.await scene).1).2.2 with
        | ok joined => simp [after, Except.map] at broken
        | error other => simpa [after, Except.map] using broken
      obtain ⟨handle, member⟩ := ih _ later
      exact ⟨handle, List.mem_cons_of_mem _ member⟩

namespace State

theorem entries_join (state : State) : state.join.2.1.entries = [] :=
  entries_awaitAll state.background state.toScene

/-- What a wait for the background ends in is a failure of commands, or what a handle ended in. -/
theorem collected_of_join_error (state : State) {fault : Fault}
    (broken : state.join.2.2 = .error fault) (foreign : Outcome.ofFault? fault = none) :
    ∃ handle, .collected handle (.error fault) ∈ state.join.2.1 := by
  simp only [join] at broken ⊢
  rcases after : (awaitAll state.background state.toScene).2.2 with other | ⟨output, _ | failures⟩
  all_goals simp only [after] at broken
  · cases broken
    exact collected_of_awaitAll_error _ _ after
  · cases broken
  · cases broken
    simp [Outcome.ofFault?] at foreign

/-- How the last wait of a script goes. There is nothing to wait for, or the wait ends in output or
in a failure of commands, and both are recorded and logged, or it breaks off. -/
inductive Finishes (state : State) (name : String) (lineno : Nat) : Run → Prop where
  | idle (nothing : state.background = []) : Finishes state name lineno ⟨state, [], .ok ()⟩
  | ended {output : Output} (joined : state.join.2.2 = .ok output) :
    Finishes state name lineno
      ⟨state.join.1.record output, state.join.2.1 ++ .ofEntries output.entries, .ok ()⟩
  | failed {failure : Failure} {output : Output}
    (joined : state.join.2.2 = .error (.command failure output)) :
    Finishes state name lineno
      ⟨state.join.1.record output,
        state.join.2.1 ++ .ofEntries (output.entries ++ [.note failure.message]),
        .error (.execution name lineno "wait" (.command failure output))⟩
  | broken {fault : Fault} (joined : state.join.2.2 = .error fault)
    (foreign : Outcome.ofFault? fault = none) :
    Finishes state name lineno ⟨state.join.1, state.join.2.1, .error fault⟩

theorem finishes (state : State) (name : String) (lineno : Nat) :
    state.Finishes name lineno (state.finish name lineno) := by
  unfold finish
  by_cases idle : state.background.isEmpty = true
  · rw [if_pos idle]
    exact .idle (List.isEmpty_iff.mp idle)
  · rw [if_neg idle]
    cases joined : state.join.2.2 with
    | ok output => simpa only [joined] using Finishes.ended joined
    | error fault =>
      cases fault with
      | command failure output => simpa only [joined] using Finishes.failed joined
      | _ => simpa only [joined] using Finishes.broken joined rfl

/-- How the wait for what a failed script has left behind goes: as its last wait would have, but
output is dropped and a failure is noted only. -/
inductive Abandons (state : State) (reason : Fault) : Run → Prop where
  | idle (nothing : state.background = []) : Abandons state reason ⟨state, [], .error reason⟩
  | ended {output : Output} (joined : state.join.2.2 = .ok output) :
    Abandons state reason ⟨state.join.1, state.join.2.1, .error reason⟩
  | failed {failure : Failure} {output : Output}
    (joined : state.join.2.2 = .error (.command failure output)) :
    Abandons state reason
      ⟨state.join.1.note .debug
          ("background command failed after script error: " ++ failure.message),
        state.join.2.1 ++ [.logged (.note ("background: " ++ failure.message))], .error reason⟩
  | broken {fault : Fault} (joined : state.join.2.2 = .error fault)
    (foreign : Outcome.ofFault? fault = none) :
    Abandons state reason ⟨state.join.1, state.join.2.1, .error fault⟩

theorem abandons (state : State) (reason : Fault) :
    state.Abandons reason (state.abandon reason) := by
  unfold abandon
  by_cases idle : state.background.isEmpty = true
  · rw [if_pos idle]
    exact .idle (List.isEmpty_iff.mp idle)
  · rw [if_neg idle]
    cases joined : state.join.2.2 with
    | ok output => simpa only [joined] using Abandons.ended joined
    | error fault =>
      cases fault with
      | command failure output => simpa only [joined] using Abandons.failed joined
      | _ => simpa only [joined] using Abandons.broken joined rfl

/-- The fault of a source counts as that of a line, or ends the script at once. -/
theorem interrupt_cases (state : State) (fault : Fault) :
    fault.isExecution = true ∧ state.interrupt fault = state.abandon fault ∨
      fault.isExecution = false ∧ state.interrupt fault = ⟨state, [], .error fault⟩ := by
  unfold interrupt
  cases execution : fault.isExecution with
  | true => exact .inl ⟨rfl, rfl⟩
  | false => exact .inr ⟨rfl, rfl⟩

end State

end LineScript
