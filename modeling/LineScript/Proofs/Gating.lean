import LineScript.Proofs.Cancellation
import LineScript.Proofs.Outcomes

/-!
# What guards decide
The guards of a line are evaluated from left to right, up to the first that cannot be evaluated or
does not hold (`guards_split`, `guardsHold_front`). If all of them hold, the line runs its command
as a line without guards does; if one does not, the line is skipped and leaves everything as it is;
if one cannot be evaluated, the line fails (`execute_gates`).
-/
namespace LineScript

/-! ## Traces of a line -/

namespace Trace

theorem calls_append (first second : Trace) :
    (first ++ second).calls = first.calls ++ second.calls := List.filterMap_append

theorem tests_append (first second : Trace) :
    (first ++ second).tests = first.tests ++ second.tests := List.filterMap_append

/-- What is passive behind a trace adds neither calls nor guards. -/
theorem Passive.behind {rest : Trace} (passive : rest.Passive) (trace : Trace) :
    (trace ++ rest).calls = trace.calls ∧ (trace ++ rest).tests = trace.tests := by
  rw [calls_append, tests_append, passive.1, passive.2]
  exact ⟨List.append_nil _, List.append_nil _⟩

theorem tests_tested (guards : List Script.Guard) : Trace.tests (guards.map .tested) = guards := by
  simp [tests, List.filterMap_map]

theorem quiet_tested (guards : List Script.Guard) : Quiet (guards.map .tested) := by
  intro event member
  obtain ⟨guard, _, rfl⟩ := List.mem_map.mp member
  trivial

end Trace

/-- The guard with the other polarity. -/
def Script.Guard.opposite (guard : Guard) : Guard := { guard with negated := !guard.negated }

/-- Two lines that call the same command, the one with a guard and the other with its opposite. -/
structure Script.Line.Opposes (guard : Guard) (line other : Line) : Prop where
  guards : line.guards = [guard]
  opposed : other.guards = [guard.opposite]
  name : other.name = line.name
  args : other.args = line.args
  background : other.background = line.background

/-- The fault says that a condition cannot be evaluated. -/
def Fault.IsCondition : Fault → Prop
  | .condition _ => True
  | .raised _ _ => True
  | _ => False

namespace Engine
open Trace

/-! ## Guards -/

section
variable (engine : Engine) (scene : Scene) (guard : Script.Guard)

/-- The guard names this condition, with a suffix just if the condition takes one. -/
def Names (condition : Condition) : Prop :=
  engine.conditions.find? guard.name = some condition ∧
    condition.usage.takesSuffix = guard.hasSuffix

/-- The condition of the guard can be evaluated, and this is its value. -/
def Evaluates (value : Bool) : Prop :=
  ∃ condition, engine.Names guard condition ∧ condition.holds scene guard.suffix = .ok value

/-- The guard holds: its condition has another value than the negated guard would want. -/
def Passes : Prop := ∃ value, engine.Evaluates scene guard value ∧ value ≠ guard.negated

/-- The guard does not hold. -/
def Bars : Prop := engine.Evaluates scene guard guard.negated

/-- The guard cannot be evaluated: there is no condition of its name, or it lacks the suffix or has
one too many, or the condition raises a fault. A fault that is none of scripts is told as one of the
guard. -/
inductive Errs : Fault → Prop where
  | unknown (absent : engine.conditions.find? guard.name = none) :
    Errs (.condition (.unknown guard.name))
  | lacking {condition : Condition} (found : engine.conditions.find? guard.name = some condition)
    (takes : condition.usage.takesSuffix = true) (bare : guard.hasSuffix = false) :
    Errs (.condition (.needsSuffix guard))
  | needless {condition : Condition} (found : engine.conditions.find? guard.name = some condition)
    (plain : condition.usage.takesSuffix = false) (suffixed : guard.hasSuffix = true) :
    Errs (.condition (.takesNoSuffix guard.name))
  | raised {condition : Condition} {fault : Fault} (named : engine.Names guard condition)
    (ended : condition.holds scene guard.suffix = .error fault) (script : fault.isScript = true) :
    Errs fault
  | wrapped {condition : Condition} {fault : Fault} (named : engine.Names guard condition)
    (ended : condition.holds scene guard.suffix = .error fault)
    (foreign : fault.isScript = false) : Errs (.raised guard fault)

end

variable {engine : Engine} {scene : Scene} {guard : Script.Guard}

theorem condition_of_names {condition : Condition} (named : engine.Names guard condition) :
    engine.condition guard = .ok condition := by
  obtain ⟨found, suits⟩ := named
  cases suffixed : guard.hasSuffix with
  | true => simp [Engine.condition, found, suits, suffixed]
  | false => simp [Engine.condition, found, suits, suffixed]

/-- A guard names a condition, or it cannot be evaluated whatever the scene. -/
theorem names_or_errs (engine : Engine) (guard : Script.Guard) :
    (∃ condition, engine.Names guard condition) ∨
      ∃ fault, engine.condition guard = .error fault ∧
        ∀ scene, engine.Errs scene guard (.condition fault) := by
  cases found : engine.conditions.find? guard.name with
  | none =>
    exact .inr ⟨.unknown guard.name, by simp [Engine.condition, found], fun _ => .unknown found⟩
  | some condition =>
    cases takes : condition.usage.takesSuffix with
    | true =>
      cases suffixed : guard.hasSuffix with
      | true => exact .inl ⟨condition, found, by rw [takes, suffixed]⟩
      | false =>
        exact .inr ⟨.needsSuffix guard, by simp [Engine.condition, found, takes, suffixed],
          fun _ => .lacking found takes suffixed⟩
    | false =>
      cases suffixed : guard.hasSuffix with
      | true =>
        exact .inr ⟨.takesNoSuffix guard.name, by simp [Engine.condition, found, takes, suffixed],
          fun _ => .needless found takes suffixed⟩
      | false => exact .inl ⟨condition, found, by rw [takes, suffixed]⟩

theorem guard_cases (engine : Engine) (scene : Scene) (guard : Script.Guard) :
    engine.Passes scene guard ∨ engine.Bars scene guard ∨
      ∃ fault, engine.Errs scene guard fault := by
  obtain ⟨condition, named⟩ | ⟨fault, _, errs⟩ := engine.names_or_errs guard
  · cases asked : condition.holds scene guard.suffix with
    | ok value =>
      by_cases same : value = guard.negated
      · exact .inr (.inl ⟨condition, named, by rw [asked, same]⟩)
      · exact .inl ⟨value, ⟨condition, named, asked⟩, same⟩
    | error fault =>
      cases script : fault.isScript with
      | true => exact .inr (.inr ⟨_, .raised named asked script⟩)
      | false => exact .inr (.inr ⟨_, .wrapped named asked script⟩)
  · exact .inr (.inr ⟨_, errs scene⟩)

namespace Errs

variable {fault : Fault}

theorem isScript (errs : engine.Errs scene guard fault) : fault.isScript = true := by
  cases errs with
  | raised named ended script => exact script
  | _ => rfl

/-- The fault is one of conditions, unless the condition has raised it. -/
theorem kind (errs : engine.Errs scene guard fault) : fault.IsCondition ∨
    ∃ condition, engine.Names guard condition ∧
      condition.holds scene guard.suffix = .error fault := by
  cases errs with
  | raised named ended script => exact .inr ⟨_, named, ended⟩
  | _ => exact .inl trivial

theorem not_evaluates (errs : engine.Errs scene guard fault) (value : Bool) :
    ¬engine.Evaluates scene guard value := by
  rintro ⟨condition, ⟨found, suits⟩, asked⟩
  cases errs with
  | unknown absent => simp [absent] at found
  | lacking other takes bare =>
    obtain rfl := Option.some.inj (found.symm.trans other)
    simp [takes, bare] at suits
  | needless other plain suffixed =>
    obtain rfl := Option.some.inj (found.symm.trans other)
    simp [plain, suffixed] at suits
  | raised named ended script =>
    obtain rfl := Option.some.inj (found.symm.trans named.1)
    simp [ended] at asked
  | wrapped named ended foreign =>
    obtain rfl := Option.some.inj (found.symm.trans named.1)
    simp [ended] at asked

end Errs

theorem Evaluates.unique {value other : Bool} (evaluated : engine.Evaluates scene guard value)
    (again : engine.Evaluates scene guard other) : value = other := by
  obtain ⟨condition, ⟨found, _⟩, asked⟩ := evaluated
  obtain ⟨same, ⟨named, _⟩, answered⟩ := again
  obtain rfl : condition = same := Option.some.inj (found.symm.trans named)
  exact Except.ok.inj (asked.symm.trans answered)

/-- Where a guard can be evaluated, either it or its opposite holds. -/
theorem Evaluates.passes_opposite {value : Bool} (evaluated : engine.Evaluates scene guard value) :
    engine.Passes scene guard.opposite ↔ ¬engine.Passes scene guard := by
  have opposed : engine.Evaluates scene guard.opposite value := evaluated
  constructor
  · rintro ⟨other, own, differs⟩ ⟨same, again, different⟩
    obtain rfl := evaluated.unique again
    obtain rfl := opposed.unique own
    have neither : guard.opposite.negated = !guard.negated := rfl
    cases value <;> cases negated : guard.negated <;> simp_all
  · intro barred
    refine ⟨value, opposed, fun same => barred ⟨value, evaluated, fun kept => ?_⟩⟩
    have both : (!guard.negated) = guard.negated := same.symm.trans kept
    simp at both

/-- Guards all hold, or there is a first one that does not or cannot be evaluated. -/
theorem guards_split (engine : Engine) (scene : Scene) (guards : List Script.Guard) :
    (∀ guard ∈ guards, engine.Passes scene guard) ∨
      ∃ front guard back, guards = front ++ guard :: back ∧
        (∀ other ∈ front, engine.Passes scene other) ∧
          (engine.Bars scene guard ∨ ∃ fault, engine.Errs scene guard fault) := by
  induction guards with
  | nil => exact .inl (by simp)
  | cons first rest ih =>
    obtain passes | stops := engine.guard_cases scene first
    · obtain all | ⟨front, guard, back, shape, before, stops⟩ := ih
      · exact .inl (List.forall_mem_cons.mpr ⟨passes, all⟩)
      · refine .inr ⟨first :: front, guard, back, by rw [shape, List.cons_append], ?_, stops⟩
        exact List.forall_mem_cons.mpr ⟨passes, before⟩
    · exact .inr ⟨[], first, rest, rfl, by simp, stops⟩

/-! ## Evaluating guards -/

/-- Guards that hold are evaluated, and then those behind them. -/
theorem guardsHold_front {front : List Script.Guard} (rest : List Script.Guard)
    (passes : ∀ guard ∈ front, engine.Passes scene guard) :
    engine.guardsHold scene (front ++ rest) =
      (front.map .tested ++ (engine.guardsHold scene rest).1, (engine.guardsHold scene rest).2) := by
  induction front with
  | nil => rfl
  | cons guard front ih =>
    obtain ⟨⟨value, ⟨condition, named, asked⟩, other⟩, later⟩ := List.forall_mem_cons.mp passes
    rw [List.cons_append, guardsHold]
    simp only [condition_of_names named, asked, other, if_false, ih later]
    rfl

theorem guardsHold_all {guards : List Script.Guard}
    (passes : ∀ guard ∈ guards, engine.Passes scene guard) :
    engine.guardsHold scene guards = (guards.map .tested, .ok true) := by
  have front := guardsHold_front [] passes
  simpa [guardsHold] using front

/-- No guard is evaluated behind one that does not hold. -/
theorem guardsHold_bars (bars : engine.Bars scene guard) (rest : List Script.Guard) :
    engine.guardsHold scene (guard :: rest) = ([.tested guard], .ok false) := by
  obtain ⟨condition, named, asked⟩ := bars
  rw [guardsHold]
  simp only [condition_of_names named, asked, if_true]

/-- No guard is evaluated behind one that cannot be. The condition of this one is asked if it names
one. -/
theorem guardsHold_errs {fault : Fault} (errs : engine.Errs scene guard fault)
    (rest : List Script.Guard) : ∃ asked : List Script.Guard,
      engine.guardsHold scene (guard :: rest) = (asked.map .tested, .error fault) ∧
        (asked = [guard] ∨ asked = [] ∧ ∀ condition, ¬engine.Names guard condition) := by
  have unnamed {other : ConditionFault} (broken : engine.condition guard = .error other) :
      engine.guardsHold scene (guard :: rest) = ([], .error (.condition other)) ∧
        ∀ condition, ¬engine.Names guard condition := by
    refine ⟨by rw [guardsHold]; simp only [broken], fun condition named => ?_⟩
    rw [condition_of_names named] at broken
    cases broken
  cases errs with
  | unknown absent =>
    obtain ⟨held, none⟩ := @unnamed (.unknown guard.name) (by simp [Engine.condition, absent])
    exact ⟨[], held, .inr ⟨rfl, none⟩⟩
  | lacking found takes bare =>
    obtain ⟨held, none⟩ :=
      @unnamed (.needsSuffix guard) (by simp [Engine.condition, found, takes, bare])
    exact ⟨[], held, .inr ⟨rfl, none⟩⟩
  | needless found plain suffixed =>
    obtain ⟨held, none⟩ :=
      @unnamed (.takesNoSuffix guard.name) (by simp [Engine.condition, found, plain, suffixed])
    exact ⟨[], held, .inr ⟨rfl, none⟩⟩
  | raised named ended script =>
    refine ⟨[guard], ?_, .inl rfl⟩
    rw [guardsHold]
    simp only [condition_of_names named, ended, script, if_true]
    rfl
  | wrapped named ended foreign =>
    refine ⟨[guard], ?_, .inl rfl⟩
    rw [guardsHold]
    simp [condition_of_names named, ended, foreign]

/-- Where guards are evaluated without fault in front of one that does not hold, there is a first
one that does not. -/
theorem bars_first {front : List Script.Guard} (back : List Script.Guard)
    (evaluated : ∀ other ∈ front, ∃ value, engine.Evaluates scene other value)
    (bars : engine.Bars scene guard) :
    ∃ before first rest, front ++ guard :: back = before ++ first :: rest ∧
      (∀ other ∈ before, engine.Passes scene other) ∧ engine.Bars scene first := by
  induction front with
  | nil => exact ⟨[], guard, back, rfl, by simp, bars⟩
  | cons first rest ih =>
    obtain ⟨⟨value, own⟩, later⟩ := List.forall_mem_cons.mp evaluated
    by_cases same : value = first.negated
    · subst same
      exact ⟨[], first, rest ++ guard :: back, rfl, by simp, own⟩
    · obtain ⟨before, other, behind, shape, passes, stops⟩ := ih later
      refine ⟨first :: before, other, behind, by rw [List.cons_append, shape]; rfl, ?_, stops⟩
      exact List.forall_mem_cons.mpr ⟨⟨value, own, same⟩, passes⟩

/-! ## Lines -/

/-- The engine runs the command of a line: it knows it, and the command may run in the background if
the line ends in the mark. -/
def Admits (engine : Engine) (line : Script.Line) (command : Command) : Prop :=
  engine.commands.find? line.name = some command ∧
    (line.background = true → command.usage.isAsync = true)

/-- What the guards of a line decide in a state. They are evaluated from left to right, up to the
first that does not hold or cannot be evaluated; only if it names no condition it is not evaluated
itself. The command is called, once, just if all guards hold and the engine admits it. -/
structure Gates (engine : Engine) (line : Script.Line) (state : State) (happening : Trace) :
    Prop where
  evaluates : (∀ guard ∈ line.guards, engine.Passes state.toScene guard) →
    happening.tests = line.guards
  stops : ∀ front guard back, line.guards = front ++ guard :: back →
    (∀ other ∈ front, engine.Passes state.toScene other) → ¬engine.Passes state.toScene guard →
      happening.tests = front ++ [guard] ∨
        happening.tests = front ∧ ∀ condition, ¬engine.Names guard condition
  runs : ∀ command, (∀ guard ∈ line.guards, engine.Passes state.toScene guard) →
    engine.Admits line command → happening.calls = [(line.name, line.args)] ∧
      .called line (command.run line.args state).2 ∈ happening
  withheld : ¬((∀ guard ∈ line.guards, engine.Passes state.toScene guard) ∧
    ∃ command, engine.Admits line command) → happening.calls = []

section
variable {line : Script.Line} {state : State}

/-- The command that the engine admits is called, and nothing is called behind it. -/
theorem runCommand_admitted {command : Command} (admits : engine.Admits line command) :
    ∃ rest : Trace, rest.Passive ∧ (engine.runCommand line state).2.1 =
      .called line (command.run line.args state).2 :: rest := by
  obtain ⟨found, allowed⟩ := admits
  have permitted : (line.background && !command.usage.isAsync) = false := by
    cases background : line.background with
    | false => rfl
    | true => simp [allowed background]
  refine ⟨_, handleReply_passive line (command.run line.args state).1
    (command.run line.args state).2, ?_⟩
  simp [runCommand, found, permitted, Effect.after]

theorem runCommand_refused (refused : ∀ command, ¬engine.Admits line command) :
    (engine.runCommand line state).2.1 = [] := by
  cases found : engine.commands.find? line.name with
  | none => simp [runCommand, found]
  | some command =>
    cases permitted : line.background && !command.usage.isAsync with
    | true => simp [runCommand, found, permitted]
    | false =>
      refine absurd ⟨found, fun background => ?_⟩ (refused command)
      simpa [background] using permitted

theorem runLine_passes (passes : ∀ guard ∈ line.guards, engine.Passes state.toScene guard) :
    engine.runLine line state =
      Effect.after (.logged (.echo line.raw) :: line.guards.map .tested)
        (engine.runCommand line state) := by
  rw [runLine, guardsHold_all passes]
  rfl

variable {front back : List Script.Guard}

theorem runLine_bars (shape : line.guards = front ++ guard :: back)
    (passes : ∀ other ∈ front, engine.Passes state.toScene other)
    (bars : engine.Bars state.toScene guard) :
    engine.runLine line state = (state, .logged (.echo line.raw) ::
      ((front ++ [guard]).map .tested ++ [.logged .skipped]), .ok ()) := by
  rw [runLine, shape, guardsHold_front _ passes, guardsHold_bars bars]
  simp [Effect.after]

theorem runLine_errs {fault : Fault} (shape : line.guards = front ++ guard :: back)
    (passes : ∀ other ∈ front, engine.Passes state.toScene other)
    (errs : engine.Errs state.toScene guard fault) : ∃ asked : List Script.Guard,
      (asked = [guard] ∨ asked = [] ∧ ∀ condition, ¬engine.Names guard condition) ∧
      engine.runLine line state =
        (state, .logged (.echo line.raw) :: (front ++ asked).map .tested, .error fault) := by
  obtain ⟨asked, held, which⟩ := guardsHold_errs errs back
  refine ⟨asked, which, ?_⟩
  rw [runLine, shape, guardsHold_front _ passes, held]
  simp [Effect.after]

/-- The trace of a line up to its command holds its echo and the guards that were evaluated. -/
theorem views_guards (guards : List Script.Guard) :
    Trace.calls (.logged (.echo line.raw) :: guards.map .tested) = [] ∧
      Trace.tests (.logged (.echo line.raw) :: guards.map .tested) = guards :=
  ⟨(quiet_tested guards).calls, tests_tested guards⟩

/-- A guard that stops a line is the last that is evaluated, and nothing is called. -/
theorem runLine_stops (shape : line.guards = front ++ guard :: back)
    (passes : ∀ other ∈ front, engine.Passes state.toScene other)
    (stops : engine.Bars state.toScene guard ∨ ∃ fault, engine.Errs state.toScene guard fault) :
    (engine.runLine line state).2.1.calls = [] ∧
      ((engine.runLine line state).2.1.tests = front ++ [guard] ∨
        (engine.runLine line state).2.1.tests = front ∧
          ∀ condition, ¬engine.Names guard condition) := by
  obtain bars | ⟨fault, errs⟩ := stops
  · rw [runLine_bars shape passes bars]
    obtain ⟨calls, tests⟩ := @views_guards line (front ++ [guard])
    obtain ⟨same, evaluated⟩ := (passive_ofEntries [.skipped]).behind
      (.logged (.echo line.raw) :: (front ++ [guard]).map .tested)
    exact ⟨same.trans calls, .inl (evaluated.trans tests)⟩
  · obtain ⟨asked, which, ran⟩ := runLine_errs shape passes errs
    rw [ran]
    obtain ⟨calls, tests⟩ := @views_guards line (front ++ asked)
    refine ⟨calls, ?_⟩
    obtain rfl | ⟨rfl, unnamed⟩ := which
    · exact .inl tests
    · exact .inr ⟨by simpa using tests, unnamed⟩

/-- A line is skipped for a guard that does not hold, whatever stands behind it, if the guards in
front of it can be evaluated. -/
theorem runLine_skipped (shape : line.guards = front ++ guard :: back)
    (evaluated : ∀ other ∈ front, ∃ value, engine.Evaluates state.toScene other value)
    (bars : engine.Bars state.toScene guard) : ∃ happening : Trace, happening.Quiet ∧
      happening.entries = [.echo line.raw, .skipped] ∧
      engine.runLine line state = (state, happening, .ok ()) := by
  obtain ⟨before, first, rest, split, passes, stops⟩ := bars_first back evaluated bars
  refine ⟨_, ?_, ?_, runLine_bars (shape.trans split) passes stops⟩
  · exact (quiet_ofEntries [.echo line.raw]).append
      ((quiet_tested _).append (quiet_ofEntries [.skipped]))
  · show Entry.echo line.raw :: Trace.entries (_ ++ [_]) = _
    rw [entries_append, entries_tests]
    rfl

theorem runLine_gates (engine : Engine) (line : Script.Line) (state : State) :
    engine.Gates line state (engine.runLine line state).2.1 := by
  have echoed := @views_guards line line.guards
  constructor
  case evaluates =>
    intro passes
    rw [runLine_passes passes]
    show Trace.tests (_ ++ _) = _
    by_cases admits : ∃ command, engine.Admits line command
    · obtain ⟨command, admits⟩ := admits
      obtain ⟨rest, passive, ran⟩ := @runCommand_admitted engine line state _ admits
      rw [ran, tests_append, echoed.2]
      show line.guards ++ rest.tests = _
      rw [passive.2, List.append_nil]
    · rw [runCommand_refused (fun command own => admits ⟨command, own⟩), List.append_nil, echoed.2]
  case stops =>
    intro front guard back shape passes blocked
    obtain holds | stops := engine.guard_cases state.toScene guard
    · exact absurd holds blocked
    · exact (runLine_stops shape passes stops).2
  case runs =>
    intro command passes admits
    obtain ⟨rest, passive, ran⟩ := @runCommand_admitted engine line state _ admits
    rw [runLine_passes passes]
    show Trace.calls (_ ++ _) = _ ∧ _ ∈ _ ++ (engine.runCommand line state).2.1
    rw [ran, calls_append, echoed.1]
    refine ⟨?_, by simp⟩
    show (line.name, line.args) :: rest.calls = _
    rw [passive.1]
  case withheld =>
    intro refused
    obtain passes | ⟨front, guard, back, shape, passes, stops⟩ :=
      engine.guards_split state.toScene line.guards
    · rw [runLine_passes passes]
      show Trace.calls (_ ++ _) = _
      rw [runCommand_refused fun command admits => refused ⟨passes, command, admits⟩,
        List.append_nil, echoed.1]
    · exact (runLine_stops shape passes stops).1

end

theorem Gates.calls_eq_nil {line : Script.Line} {state : State} {happening : Trace}
    (gates : engine.Gates line state happening) {command : Command}
    (admits : engine.Admits line command) : happening.calls = [] ↔
      ¬∀ guard ∈ line.guards, engine.Passes state.toScene guard := by
  constructor
  · intro nothing passes
    have called := (gates.runs command passes admits).1
    rw [nothing] at called
    cases called
  · intro blocked
    exact gates.withheld fun ⟨passes, _⟩ => blocked passes

/-! ## Lines of a script -/

section
variable (engine : Engine) (name : String) (source : Source) (state : State) (count : Nat)

/-- A script comes to a line: the lines in front of it are finished, the scope is not canceled then,
and the line is read. -/
structure ComesTo (line : Script.Line) : Prop where
  finished : (engine.advance name (source.lines.take count) state).ending = .finished count
  alive : (engine.reached name source state count).isCanceled = false
  read : ∃ raw, source.lines[count]? = some raw ∧ Script.Line.parse (Text.stripLineEnd raw)
    (engine.reached name source state count).env.expand = .ok (some line)

/-- What happens at the line behind the first lines of a script. -/
def happening : Trace :=
  (engine.advance name (source.lines.take (count + 1)) state).trace.drop
    (engine.advance name (source.lines.take count) state).trace.length

end

section
variable {engine : Engine} {name : String} {source : Source} {state : State} {count : Nat}
  {line : Script.Line}

namespace ComesTo

theorem beyond (comes : engine.ComesTo name source state count line) : ∃ raw,
    engine.advance name (source.lines.take (count + 1)) state =
      .after (engine.advance name (source.lines.take count) state).trace
        (engine.runLines name count [raw] (engine.reached name source state count)) ∧
    engine.step raw (engine.reached name source state count) =
      .ofEffect line.raw (engine.runLine line (engine.reached name source state count)) := by
  obtain ⟨raw, next, read⟩ := comes.read
  exact ⟨raw, advance_succ comes.finished next, step_parsed comes.alive read⟩

/-- What happens at the line is what running it makes happen, and a note if it does not end well. -/
theorem happens (comes : engine.ComesTo name source state count line) :
    let effect := engine.runLine line (engine.reached name source state count)
    (engine.advance name (source.lines.take (count + 1)) state).trace =
        (engine.advance name (source.lines.take count) state).trace ++
          engine.happening name source state count ∧
      ∃ note : Option String, (effect.2.2 = .ok () → note = none) ∧
        engine.happening name source state count =
          effect.2.1 ++ ofEntries (note.toList.map .note) := by
  intro effect
  obtain ⟨raw, advanced, stepped⟩ := comes.beyond
  obtain ⟨note, well, made⟩ := Step.ofEffect_noted line.raw effect
  have trace : (engine.advance name (source.lines.take (count + 1)) state).trace =
      (engine.advance name (source.lines.take count) state).trace ++
        (effect.2.1 ++ ofEntries (note.toList.map .note)) := by
    rw [advanced]
    show _ ++ (engine.runLines name count [raw] _).trace = _
    rw [trace_single, stepped, made]
  have same : engine.happening name source state count =
      effect.2.1 ++ ofEntries (note.toList.map .note) := by
    rw [happening, trace, List.drop_left]
  exact ⟨by rw [same, trace], note, well, same⟩

/-- So the calls and the guards that are evaluated are those of the line. -/
theorem views (comes : engine.ComesTo name source state count line) :
    let effect := engine.runLine line (engine.reached name source state count)
    (engine.happening name source state count).calls = effect.2.1.calls ∧
      (engine.happening name source state count).tests = effect.2.1.tests := by
  intro effect
  obtain ⟨_, note, _, same⟩ := comes.happens
  rw [same]
  exact (passive_ofEntries _).behind _

/-- A line that is skipped leaves everything as it is. -/
theorem skipped (comes : engine.ComesTo name source state count line)
    {front back : List Script.Guard} {guard : Script.Guard}
    (shape : line.guards = front ++ guard :: back)
    (evaluated : ∀ other ∈ front, ∃ value,
      engine.Evaluates (engine.reached name source state count).toScene other value)
    (bars : engine.Bars (engine.reached name source state count).toScene guard) :
    let progress := engine.advance name (source.lines.take (count + 1)) state
    progress.ending = .finished (count + 1) ∧
      progress.state = engine.reached name source state count ∧
      (engine.happening name source state count).calls = [] ∧
      (engine.happening name source state count).entries = [.echo line.raw, .skipped] := by
  intro progress
  obtain ⟨skip, quiet, entries, ran⟩ := runLine_skipped shape evaluated bars
  obtain ⟨raw, advanced, stepped⟩ := comes.beyond
  obtain ⟨_, note, well, same⟩ := comes.happens
  rw [ran, well (by rw [ran])] at same
  rw [ran] at stepped
  have made : engine.happening name source state count = skip :=
    same.trans (List.append_nil skip)
  have last : engine.runLines name count [raw] (engine.reached name source state count) =
      ⟨engine.reached name source state count, skip, .finished (count + 1)⟩ := by
    rw [runLines, stepped]
    simp [Step.ofEffect, runLines, Progress.after]
  rw [made]
  refine ⟨?_, ?_, quiet.calls, entries⟩
  · show (engine.advance name (source.lines.take (count + 1)) state).ending = _
    rw [advanced, last]
    rfl
  · show (engine.advance name (source.lines.take (count + 1)) state).state = _
    rw [advanced, last]
    rfl

/-- A line with a guard that cannot be evaluated leaves the state as it is and fails its script. -/
theorem fails (comes : engine.ComesTo name source state count line)
    {front back : List Script.Guard} {guard : Script.Guard} {fault : Fault}
    (shape : line.guards = front ++ guard :: back)
    (passes : ∀ other ∈ front,
      engine.Passes (engine.reached name source state count).toScene other)
    (errs : engine.Errs (engine.reached name source state count).toScene guard fault) :
    engine.FailsAt name source state count line.raw fault ∧
      engine.reached name source state (count + 1) = engine.reached name source state count := by
  obtain ⟨raw, advanced, stepped⟩ := comes.beyond
  obtain ⟨asked, _, ran⟩ := runLine_errs shape passes errs
  rw [ran, Step.ofEffect_script errs.isScript] at stepped
  have last : engine.runLines name count [raw] (engine.reached name source state count) =
      ⟨engine.reached name source state count, (engine.step raw
        (engine.reached name source state count)).trace, .failed (count + 1) line.raw fault⟩ := by
    rw [runLines, stepped]
  constructor
  · apply failsAt_of_failed
    rw [advanced, last]
    rfl
  · show (engine.advance name (source.lines.take (count + 1)) state).state = _
    rw [advanced, last]
    rfl

theorem gates (comes : engine.ComesTo name source state count line) :
    engine.Gates line (engine.reached name source state count)
      (engine.happening name source state count) := by
  obtain ⟨calls, tests⟩ := comes.views
  obtain ⟨_, note, _, same⟩ := comes.happens
  have gates := engine.runLine_gates line (engine.reached name source state count)
  refine ⟨?_, ?_, ?_, ?_⟩
  · rw [tests]
    exact gates.evaluates
  · rw [tests]
    exact gates.stops
  · intro command passes admits
    obtain ⟨once, member⟩ := gates.runs command passes admits
    refine ⟨calls.trans once, ?_⟩
    rw [same]
    exact List.mem_append_left _ member
  · rw [calls]
    exact gates.withheld

/-- Of two lines with opposite guards just one calls the command. -/
theorem opposed {other : Source} {twin : Script.Line} {guard : Script.Guard} {value : Bool}
    {command : Command} (comes : engine.ComesTo name source state count line)
    (arrives : engine.ComesTo name other state count twin)
    (front : other.lines.take count = source.lines.take count) (opposes : line.Opposes guard twin)
    (evaluated : engine.Evaluates (engine.reached name source state count).toScene guard value)
    (admits : engine.Admits line command) :
    (engine.happening name source state count).calls = [] ↔
      (engine.happening name other state count).calls ≠ [] := by
  -- Both scripts have the same lines in front, so they come to their lines in one state.
  have same : engine.reached name other state count = engine.reached name source state count := by
    rw [reached, reached, front]
  have twins : engine.Admits twin command := by
    rwa [Admits, opposes.name, opposes.background]
  have gates := arrives.gates.calls_eq_nil twins
  rw [Ne, comes.gates.calls_eq_nil admits, gates, same, opposes.guards, opposes.opposed]
  simp [evaluated.passes_opposite]

end ComesTo

/-- Guards gate the command of a line, and nothing else. They are evaluated in order up to the first
that does not hold or cannot be evaluated, and the command is called just if all hold and the engine
admits it. A line that is skipped leaves the state as it is and logs no more than its echo and that
it is skipped, whatever stands behind the guard that does not hold. A guard that cannot be evaluated
leaves the state as it is and fails the script, with a fault of conditions unless the condition has
raised another fault of scripts. Of two lines with opposite guards just one calls the command. -/
theorem execute_gates (comes : engine.ComesTo name source state count line) :
    let before := engine.reached name source state count
    let happening := engine.happening name source state count
    let progress := engine.advance name (source.lines.take (count + 1)) state
    progress.trace = (engine.advance name (source.lines.take count) state).trace ++ happening ∧
    engine.Gates line before happening ∧
    (∀ front guard back, line.guards = front ++ guard :: back →
      (∀ other ∈ front, ∃ value, engine.Evaluates before.toScene other value) →
      engine.Bars before.toScene guard →
        progress.ending = .finished (count + 1) ∧ progress.state = before ∧
          happening.calls = [] ∧
          happening.log = "> " ++ line.raw ++ "\n" ++ "[condition not met]\n") ∧
    (∀ front guard back fault, line.guards = front ++ guard :: back →
      (∀ other ∈ front, engine.Passes before.toScene other) →
      engine.Errs before.toScene guard fault →
        progress.state = before ∧ happening.calls = [] ∧
          engine.FailsAt name source state count line.raw fault ∧ fault.isScript = true ∧
          (fault.IsCondition ∨ ∃ condition, engine.Names guard condition ∧
            condition.holds before.toScene guard.suffix = .error fault)) ∧
    ∀ other twin guard value command, engine.ComesTo name other state count twin →
      other.lines.take count = source.lines.take count → line.Opposes guard twin →
      engine.Evaluates before.toScene guard value → engine.Admits line command →
        (happening.calls = [] ↔ (engine.happening name other state count).calls ≠ []) := by
  intro before happening progress
  have calls : happening.calls = (engine.runLine line before).2.1.calls := comes.views.1
  refine ⟨comes.happens.1, comes.gates, ?_, ?_, ?_⟩
  · intro front guard back shape evaluated bars
    obtain ⟨ending, left, silent, entries⟩ := comes.skipped shape evaluated bars
    refine ⟨ending, left, silent, ?_⟩
    show String.join ((engine.happening name source state count).entries.map Entry.text) = _
    rw [entries]
    simp [Entry.text]
  · intro front guard back fault shape passes errs
    obtain ⟨fails, left⟩ := comes.fails shape passes errs
    refine ⟨left, ?_, fails, errs.isScript, errs.kind⟩
    rw [calls]
    exact (runLine_stops shape passes (.inr ⟨fault, errs⟩)).1
  · intro other twin guard value command arrives front opposes evaluated admits
    exact comes.opposed arrives front opposes evaluated admits

end

/-! ## A guard that never holds -/

/-- An engine that knows one condition, which never holds, and one command, which says nothing. -/
private def guarding : Engine :=
  ⟨⟨[("rest", ⟨⟨"do nothing", "", [], false⟩, fun _ state => (state, .done)⟩)]⟩,
    ⟨[("never", Builtin.plain "never holds" fun _ => false)]⟩⟩

/-- A line is skipped although its second guard names a condition that is not there. -/
theorem execute_gates_skipped :
    let state := State.start .empty "/" .empty
    let source := Source.ofLines ["[never] [lost] rest\n"]
    let line : Script.Line := ⟨"[never] [lost] rest", "rest", [],
      [⟨"never", "", false, false⟩, ⟨"lost", "", false, false⟩], .success, false⟩
    let happening := guarding.happening "s" source state 0
    guarding.ComesTo "s" source state 0 line ∧
      guarding.Bars (guarding.reached "s" source state 0).toScene ⟨"never", "", false, false⟩ ∧
      guarding.reached "s" source state 1 = guarding.reached "s" source state 0 ∧
      happening.calls = [] ∧ happening.log = "> [never] [lost] rest\n[condition not met]\n" := by
  intro state source line happening
  have words : Script.rawWords "[never] [lost] rest" = .ok [[.plain "[never]".toList],
      [.plain "[lost]".toList], [.plain "rest".toList]] := rfl
  have read : Script.Line.parse "[never] [lost] rest" state.env.expand = .ok (some line) :=
    @Script.Line.parse_plain _ _ _ "never] [lost] res".toList rfl rfl rfl (by decide) _ words
      (by simp) _ rfl state.env
  have comes : guarding.ComesTo "s" source state 0 line := ⟨rfl, rfl, _, rfl, read⟩
  have bars : guarding.Bars (guarding.reached "s" source state 0).toScene
      ⟨"never", "", false, false⟩ := ⟨_, ⟨rfl, rfl⟩, rfl⟩
  obtain ⟨_, _, skips, _⟩ := execute_gates comes
  obtain ⟨_, left, calls, log⟩ := skips [] _ _ rfl (by simp) bars
  exact ⟨comes, bars, left, calls, log⟩

/-- A line that is to be skipped fails where the scope is canceled. A guard that cannot be evaluated
is not what a script fails with if a handle in the background ends in a fault of no script. A guard
that holds does not run a command in the background that is done at once. -/
theorem execute_gates_not_always :
    let begun := State.start .empty "/" .empty
    let canceled : State := { begun with scopes := begun.scopes.cancel 1 }
    let broken : Handle := .task fun scene => (scene, .error (.value .embeddedNul))
    let waiting := begun.withPending ⟨"b &", broken, .success⟩
    let never : Script.Guard := ⟨"never", "", false, false⟩
    let lost : Script.Guard := ⟨"lost", "", false, false⟩
    let skips := guarding.execute "s" (.ofLines ["[never] rest\n"]) canceled
    let errs := guarding.execute "s" (.ofLines ["[lost] rest\n"]) waiting
    let sends := guarding.happening "s" (.ofLines ["[!never] rest &\n"]) begun 0
    (guarding.Bars canceled.toScene never ∧
      skips.result = .error (.execution "s" 1 "[never] rest" (.line .canceled)) ∧
      skips.trace.log = "") ∧
    (guarding.Errs waiting.toScene lost (.condition (.unknown "lost")) ∧
      errs.result = .error (.value .embeddedNul)) ∧
    guarding.Passes begun.toScene never.opposite ∧ sends.calls = [] := by
  intro begun canceled broken waiting never lost skips errs sends
  -- In the canceled scope the line is not even read, so evaluation settles it.
  have skipped : skips.result = .error (.execution "s" 1 "[never] rest" (.line .canceled)) ∧
      skips.trace.log = "" := ⟨rfl, rfl⟩
  have unknown : guarding.Errs waiting.toScene lost (.condition (.unknown "lost")) := .unknown rfl
  have lostLine : Script.Line.parse "[lost] rest" waiting.env.expand =
      .ok (some ⟨"[lost] rest", "rest", [], [lost], .success, false⟩) := by
    have words : Script.rawWords "[lost] rest" =
        .ok [[.plain "[lost]".toList], [.plain "rest".toList]] := rfl
    exact @Script.Line.parse_plain _ _ _ "lost] res".toList rfl rfl rfl (by decide) _ words
      (by simp) _ rfl waiting.env
  have lostComes : guarding.ComesTo "s" (.ofLines ["[lost] rest\n"]) waiting 0
      ⟨"[lost] rest", "rest", [], [lost], .success, false⟩ := ⟨rfl, rfl, _, rfl, lostLine⟩
  have only : [lost] = [] ++ lost :: [] := rfl
  obtain ⟨fails, left⟩ := lostComes.fails only (by simp) unknown
  have ended : errs.result = .error (.value .embeddedNul) := by
    show (guarding.execute _ _ _).result = _
    rw [fails.ends, left]
    rfl
  have passes : guarding.Passes begun.toScene never.opposite :=
    ⟨false, ⟨_, ⟨rfl, rfl⟩, rfl⟩, by decide⟩
  have sentLine : Script.Line.parse "[!never] rest &" begun.env.expand =
      .ok (some ⟨"[!never] rest &", "rest", [], [never.opposite], .success, true⟩) := by
    have words : Script.rawWords "[!never] rest &" =
        .ok [[.plain "[!never]".toList], [.plain "rest".toList], [.plain "&".toList]] := rfl
    exact @Script.Line.parse_plain _ _ _ "!never] rest ".toList rfl rfl rfl (by decide) _ words
      (by simp) _ rfl begun.env
  have sentComes : guarding.ComesTo "s" (.ofLines ["[!never] rest &\n"]) begun 0
      ⟨"[!never] rest &", "rest", [], [never.opposite], .success, true⟩ :=
    ⟨rfl, rfl, _, rfl, sentLine⟩
  refine ⟨⟨⟨_, ⟨rfl, rfl⟩, rfl⟩, skipped⟩, ⟨unknown, ended⟩, passes, ?_⟩
  apply sentComes.gates.withheld
  rintro ⟨_, command, found, allowed⟩
  cases Option.some.inj found
  cases allowed rfl

end Engine

end LineScript
