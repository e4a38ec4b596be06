import LineScript.Proofs.Background
import LineScript.Proofs.Composition
import LineScript.Proofs.Moves

/-!
# What the log and the record say
The log has a block for every line that was reached, in the order of the lines, and at most one more
when the script ends (`LineLog`, `Journal`). Where commands leave it to the engine to record what
they put out, output is recorded just where it is logged, however the script ends
(`execute_journal`).
-/
namespace LineScript

/-! ## Entries -/

/-- What an entry shows of standard output, if it is about that. -/
def Entry.stdout? : Entry → Option String
  | .stdout text => some text
  | _ => none

/-- What an entry shows of standard error, if it is about that. -/
def Entry.stderr? : Entry → Option String
  | .stderr text => some text
  | _ => none

/-- An entry of whole lines; where it shows output, it shows some. -/
structure Entry.Whole (entry : Entry) : Prop where
  ended : ∃ lines, entry.text = lines ++ "\n"
  stdout : entry.stdout? ≠ some ""
  stderr : entry.stderr? ≠ some ""

/-- Every entry ends in a line feed. -/
theorem Entry.text_ended (entry : Entry) : ∃ lines, entry.text = lines ++ "\n" := by
  cases entry with
  | comment text => exact ⟨text, rfl⟩
  | echo line => exact ⟨"> " ++ line, rfl⟩
  | skipped => exact ⟨"[condition not met]", rfl⟩
  | note message => exact ⟨"[" ++ message ++ "]", by simp [text, String.append_assoc]⟩
  | stdout text =>
    obtain ⟨lines, shape⟩ := Text.withLineFeed_ended text
    exact ⟨"[stdout]\n" ++ lines, by rw [Entry.text, shape, String.append_assoc]⟩
  | stderr text =>
    obtain ⟨lines, shape⟩ := Text.withLineFeed_ended text
    exact ⟨"[stderr]\n" ++ lines, by rw [Entry.text, shape, String.append_assoc]⟩

/-- What a command came to, as it is logged: its output, and at most one note behind it. -/
def Settlement (entries : List Entry) : Prop :=
  ∃ (output : Output) (note : Option String), entries = output.entries ++ note.toList.map .note

/-- What one line of a script writes to the log. -/
inductive LineLog (raw : String) : List Entry → Prop where
  | blank (blank : (Text.strip (Text.stripLineEnd raw)).isEmpty = true) : LineLog raw []
  | comment (comment : Script.isComment (Text.strip (Text.stripLineEnd raw)) = true) :
    LineLog raw [.comment (Text.strip (Text.stripLineEnd raw))]
  | unread (fault : Script.SyntaxFault) : LineLog raw [.note fault.message]
  | skipped : LineLog raw [.echo (Text.strip (Text.stripLineEnd raw)), .skipped]
  | ran {entries : List Entry} (settlement : Settlement entries) :
    LineLog raw (.echo (Text.strip (Text.stripLineEnd raw)) :: entries)

/-- What the lines of a script write to the log: one block for each line that is read, in order, as
far as the script gets. -/
inductive Journal : List String → List Entry → Prop where
  | ended (lines : List String) : Journal lines []
  | line {raw : String} {lines : List String} {block entries : List Entry}
    (first : LineLog raw block) (rest : Journal lines entries) :
    Journal (raw :: lines) (block ++ entries)

theorem Output.entries_whole (output : Output) : ∀ entry ∈ output.entries, entry.Whole := by
  intro entry member
  rcases List.mem_append.mp member with early | late
  · by_cases empty : output.stdout.isEmpty = true
    · simp [empty] at early
    · obtain rfl : entry = .stdout output.stdout := by simpa [empty] using early
      exact ⟨Entry.text_ended _, by simpa [Entry.stdout?] using empty, by simp [Entry.stderr?]⟩
  · by_cases empty : output.stderr.isEmpty = true
    · simp [empty] at late
    · obtain rfl : entry = .stderr output.stderr := by simpa [empty] using late
      exact ⟨Entry.text_ended _, by simp [Entry.stdout?], by simpa [Entry.stderr?] using empty⟩

theorem Settlement.whole {entries : List Entry} (settlement : Settlement entries) :
    ∀ entry ∈ entries, entry.Whole := by
  obtain ⟨output, note, rfl⟩ := settlement
  intro entry member
  rcases List.mem_append.mp member with early | late
  · exact output.entries_whole entry early
  · obtain ⟨message, _, rfl⟩ := List.mem_map.mp late
    exact ⟨Entry.text_ended _, by simp [Entry.stdout?], by simp [Entry.stderr?]⟩

theorem LineLog.whole {raw : String} {entries : List Entry} (block : LineLog raw entries) :
    ∀ entry ∈ entries, entry.Whole := by
  have plain (entry : Entry) (out : entry.stdout? = none) (err : entry.stderr? = none) :
      entry.Whole := ⟨entry.text_ended, by simp [out], by simp [err]⟩
  cases block with
  | blank => simp
  | comment => simpa using plain _ rfl rfl
  | unread fault => simpa using plain _ rfl rfl
  | skipped => simpa using ⟨plain _ rfl rfl, plain .skipped rfl rfl⟩
  | ran settlement =>
    intro entry member
    rcases List.mem_cons.mp member with rfl | later
    · exact plain _ rfl rfl
    · exact settlement.whole entry later

theorem Journal.whole {lines : List String} {entries : List Entry} (journal : Journal lines entries) :
    ∀ entry ∈ entries, entry.Whole := by
  induction journal with
  | ended => simp
  | line first _ ih =>
    intro entry member
    rcases List.mem_append.mp member with early | late
    · exact first.whole entry early
    · exact ih entry late

theorem Output.stdout_entries (output : Output) :
    String.join (output.entries.filterMap Entry.stdout?) = output.stdout := by
  have other : (if output.stderr.isEmpty then [] else [Entry.stderr output.stderr]).filterMap
      Entry.stdout? = [] := by
    split <;> simp [Entry.stdout?]
  rw [entries, List.filterMap_append, other, List.append_nil]
  by_cases empty : output.stdout = ""
  · simp [empty]
  · simp [empty, Entry.stdout?]

theorem Output.stderr_entries (output : Output) :
    String.join (output.entries.filterMap Entry.stderr?) = output.stderr := by
  have other : (if output.stdout.isEmpty then [] else [Entry.stdout output.stdout]).filterMap
      Entry.stderr? = [] := by
    split <;> simp [Entry.stderr?]
  rw [entries, List.filterMap_append, other, List.nil_append]
  by_cases empty : output.stderr = ""
  · simp [empty]
  · simp [empty, Entry.stderr?]

namespace Trace

/-- The output that the log shows: the texts of its entries for each stream, in order. -/
def shown (trace : Trace) : Output :=
  ⟨String.join (trace.entries.filterMap Entry.stdout?),
    String.join (trace.entries.filterMap Entry.stderr?)⟩

@[simp] theorem entries_append (first second : Trace) :
    (first ++ second).entries = first.entries ++ second.entries := List.filterMap_append

@[simp] theorem entries_ofEntries (entries : List Entry) : (ofEntries entries).entries = entries := by
  simp [Trace.entries, ofEntries, List.filterMap_map]

@[simp] theorem entries_logged (entry : Entry) : Trace.entries [.logged entry] = [entry] := rfl

theorem shown_append (first second : Trace) :
    (first ++ second).shown = first.shown.append second.shown := by
  simp [shown, Output.append, String.join_append]

theorem shown_of_silent {trace : Trace} (silent : trace.entries = []) : trace.shown = .empty := by
  simp [shown, silent, Output.empty]

theorem shown_settlement (output : Output) (note : Option String) :
    (ofEntries (output.entries ++ note.toList.map .note)).shown = output := by
  have notes (f : Entry → Option String) (silent : ∀ message, f (.note message) = none) :
      (note.toList.map Entry.note).filterMap f = [] := by
    simp [silent]
  rw [shown, entries_ofEntries, List.filterMap_append, List.filterMap_append,
    notes _ fun _ => rfl, notes _ fun _ => rfl, List.append_nil, List.append_nil,
    output.stdout_entries, output.stderr_entries]

end Trace

/-! ## The record -/

/-- What was recorded last is the end of all that was written. -/
def State.EndsInLast (state : State) : Prop :=
  ∃ before : Output, state.written = before.append state.last

/-- On the way from one state to another just that output is recorded which the log shows. -/
structure Recorded (state : State) (trace : Trace) (after : State) : Prop where
  written : after.written = state.written.append trace.shown
  last : state.EndsInLast → after.EndsInLast

namespace Recorded

theorem of_silent {state after : State} {trace : Trace} (written : after.written = state.written)
    (last : after.last = state.last) (silent : trace.shown = .empty) : Recorded state trace after where
  written := by rw [silent, Output.append_empty, written]
  last ends := by rwa [State.EndsInLast, written, last]

theorem trans {state between after : State} {first second : Trace}
    (early : Recorded state first between) (late : Recorded between second after) :
    Recorded state (first ++ second) after where
  written := by rw [late.written, early.written, Trace.shown_append, Output.append_assoc]
  last := late.last ∘ early.last

theorem record (state : State) (output : Output) (note : Option String) :
    Recorded state (.ofEntries (output.entries ++ note.toList.map .note)) (state.record output) where
  written := by rw [Trace.shown_settlement]; rfl
  last _ := ⟨state.written, rfl⟩

end Recorded

/-! ## Commands that leave the record to the engine -/

/-- A handle that records nothing itself. A wait for the background records nothing where the
handles do not that it collects. -/
def Handle.Reserved : Handle → Prop
  | .task run => ∀ scene : Scene,
    (run scene).1.written = scene.written ∧ (run scene).1.last = scene.last
  | .join => True

/-- A command that records nothing itself, and whose handles do not. -/
structure Command.Reserved (command : Command) : Prop where
  hands : command.Hands Handle.Reserved
  written : ∀ args state, (command.run args state).1.written = state.written
  last : ∀ args state, (command.run args state).1.last = state.last

/-- An engine whose commands all leave the record to it. -/
def Engine.Reserved (engine : Engine) : Prop :=
  ∀ name command, engine.commands.find? name = some command → command.Reserved

theorem Engine.Reserved.hands {engine : Engine} (reserved : engine.Reserved) :
    engine.Hands Handle.Reserved := fun name command found => (reserved name command found).hands

theorem Handle.Reserved.await {handle : Handle} (reserved : handle.Reserved) (scene : Scene) :
    (handle.await scene).1.written = scene.written ∧ (handle.await scene).1.last = scene.last := by
  cases handle with
  | task run => exact reserved scene
  | join => exact ⟨rfl, rfl⟩

/-- A wait for the background records and logs nothing by itself. -/
theorem State.join_recorded {state : State} (holds : state.Holds Handle.Reserved) :
    Recorded state state.join.2.1 state.join.1 := by
  have kept := holds.join
    (fun scene => scene.written = state.written ∧ scene.last = state.last)
    (fun _ reserved scene same => ⟨(reserved.await scene).1.trans same.1,
      (reserved.await scene).2.trans same.2⟩) ⟨rfl, rfl⟩
  obtain ⟨written, last⟩ := kept
  exact .of_silent written last (Trace.shown_of_silent state.entries_join)

/-- Neither does a handle that is awaited in the foreground. -/
theorem State.await_recorded {state : State} (holds : state.Holds Handle.Reserved)
    {handle : Handle} (reserved : handle.Reserved) :
    Recorded state (state.await handle).2.1 (state.await handle).1 ∧
      (state.await handle).2.1.entries = [] := by
  cases handle with
  | task run =>
    obtain ⟨written, last⟩ := reserved state.toScene
    exact ⟨.of_silent written last rfl, rfl⟩
  | join =>
    have joined := State.join_recorded holds
    have asked : Recorded state [.awaited .join state.join.2.2] state := .of_silent rfl rfl rfl
    exact ⟨asked.trans joined, state.entries_join⟩

/-! ## Lines -/

namespace Engine

/-- An effect that records what it logs: the output of one command. Behind it stands a note only if
the line ends well. -/
structure Effect.Logged (state : State) (effect : Effect) : Prop where
  recorded : Recorded state effect.2.1 effect.1
  entries : ∃ (output : Output) (note : Option String),
    effect.2.1.entries = output.entries ++ note.toList.map .note ∧
      (effect.2.2 ≠ .ok () → note = none)

theorem Effect.Logged.after {state between : State} {trace : Trace} {effect : Effect}
    (logged : Effect.Logged between effect) (recorded : Recorded state trace between)
    (silent : trace.entries = []) : Effect.Logged state (Effect.after trace effect) where
  recorded := recorded.trans logged.recorded
  entries := by
    obtain ⟨output, note, shape, ends⟩ := logged.entries
    refine ⟨output, note, ?_, ends⟩
    rw [Effect.after, Trace.entries_append, silent, List.nil_append, shape]

theorem Effect.Logged.of_same {state after : State} (written : after.written = state.written)
    (last : after.last = state.last) (result : Except Fault Unit) :
    Effect.Logged state (after, [], result) where
  recorded := .of_silent written last rfl
  entries := ⟨.empty, none, rfl, fun _ => rfl⟩

theorem conclude_logged (want : Script.Expect) (state : State) (outcome : Outcome) :
    Effect.Logged state (conclude want state outcome) := by
  -- a failure that is noted here is one that the line does not fail with
  obtain ⟨note, entries, ends⟩ : ∃ note : Option String, conclude want state outcome =
      (state.record outcome.output, .ofEntries (outcome.output.entries ++ note.toList.map .note),
        (conclude want state outcome).2.2) ∧
      ((conclude want state outcome).2.2 ≠ .ok () → note = none) := by
    obtain ⟨output, _ | failure⟩ := outcome
    · exact ⟨none, rfl, fun _ => rfl⟩
    · cases want with
      | success => exact ⟨none, rfl, fun _ => rfl⟩
      | failure => exact ⟨some failure.message, rfl, fun failed => absurd rfl failed⟩
      | any => exact ⟨some failure.message, rfl, fun failed => absurd rfl failed⟩
  rw [entries]
  exact ⟨.record state outcome.output note, outcome.output, note, by simp, ends⟩

theorem concludeFault_logged (want : Script.Expect) (state : State) (fault : Fault) :
    Effect.Logged state (concludeFault want state fault) := by
  unfold concludeFault
  split
  · exact conclude_logged want state _
  · exact .of_same rfl rfl _

theorem concludeResult_logged (want : Script.Expect) (state : State)
    (result : Except Fault Output) : Effect.Logged state (concludeResult want state result) := by
  cases result with
  | ok output => exact conclude_logged want state ⟨output, none⟩
  | error fault => exact concludeFault_logged want state fault

/-- Whatever a command replies, just what is logged is recorded. -/
theorem handleReply_logged (line : Script.Line) {state : State} (holds : state.Holds Handle.Reserved)
    {reply : Reply} (reserved : ∀ handle, reply = .handle handle → handle.Reserved) :
    Effect.Logged state (handleReply line state reply) := by
  cases reply with
  | done => exact .of_same rfl rfl _
  | fault fault => exact concludeFault_logged line.want state fault
  | handle handle =>
    rw [handleReply]
    by_cases background : line.background = true
    · rw [if_pos background]
      exact .of_same (by rfl) (by rfl) _
    · rw [if_neg background]
      obtain ⟨recorded, silent⟩ := State.await_recorded holds (reserved handle rfl)
      exact (concludeResult_logged line.want _ _).after recorded silent

end Engine

/-- A step adds at most one note to what its effect logs, and none where the line ended well. -/
theorem Step.ofEffect_noted (text : String) (effect : Effect) : ∃ note : Option String,
    (effect.2.2 = .ok () → note = none) ∧ ofEffect text effect =
      ⟨effect.1, effect.2.1 ++ .ofEntries (note.toList.map .note), (ofEffect text effect).sequel⟩ := by
  obtain ⟨state, trace, result⟩ := effect
  simp only [ofEffect]
  split
  · exact ⟨none, fun _ => rfl, by simp [Trace.ofEntries]⟩
  · exact ⟨some (stopNote _), by simp, rfl⟩
  · split
    · exact ⟨some (Fault.message _), by simp, rfl⟩
    · exact ⟨none, fun _ => rfl, by simp [Trace.ofEntries]⟩

/-- What happens in front of an effect happens in front of its step. -/
theorem Step.ofEffect_after (text : String) (trace : Trace) (effect : Effect) :
    ofEffect text (Engine.Effect.after trace effect) =
      { ofEffect text effect with trace := trace ++ (ofEffect text effect).trace } := by
  obtain ⟨state, happened, result⟩ := effect
  simp only [ofEffect, Engine.Effect.after]
  split
  · rfl
  · simp
  · split <;> simp

namespace Engine
open Trace

/-- The step of an effect records what it logs, and logs one settlement. -/
theorem Effect.Logged.step {state : State} {effect : Effect} (text : String)
    (logged : Effect.Logged state effect) :
    Recorded state (Step.ofEffect text effect).trace (Step.ofEffect text effect).state ∧
      Settlement (Step.ofEffect text effect).trace.entries := by
  obtain ⟨note, well, made⟩ := Step.ofEffect_noted text effect
  obtain ⟨output, earlier, shape, ends⟩ := logged.entries
  have silent : (ofEntries (note.toList.map .note)).shown = .empty := shown_settlement .empty note
  rw [made]
  refine ⟨logged.recorded.trans (.of_silent rfl rfl silent), ?_⟩
  -- there is at most one of the two notes
  by_cases ended : effect.2.2 = .ok ()
  · refine ⟨output, earlier, ?_⟩
    simp [shape, well ended]
  · refine ⟨output, note, ?_⟩
    simp [shape, ends ended]

theorem entries_tests (tests : List Script.Guard) :
    Trace.entries (tests.map Event.tested) = [] := by
  simp [Trace.entries, List.filterMap_map]

/-- A line that is run is echoed; then it is skipped, or its command comes to a settlement. -/
theorem ofEffect_runLine {engine : Engine} (reserved : engine.Reserved) (line : Script.Line)
    {state : State} (holds : state.Holds Handle.Reserved) :
    let step := Step.ofEffect line.raw (engine.runLine line state)
    Recorded state step.trace step.state ∧ ∃ rest, step.trace.entries = .echo line.raw :: rest ∧
      (rest = [.skipped] ∨ Settlement rest) := by
  have echoed (tests : List Script.Guard) :
      Trace.entries (.logged (.echo line.raw) :: tests.map Event.tested) = [.echo line.raw] :=
    congrArg (Entry.echo line.raw :: ·) (entries_tests tests)
  obtain ⟨tests, ⟨fault, script, ran⟩ | ran | ⟨command, after, reply, found, replied, ran⟩⟩ :=
    engine.runLine_shape line state
  · rw [ran, Step.ofEffect_script script]
    have entries : Trace.entries (.logged (.echo line.raw) :: tests.map Event.tested ++
        [.logged (.note fault.message)]) = [.echo line.raw, .note fault.message] := by
      rw [entries_append, echoed]
      rfl
    refine ⟨.of_silent rfl rfl ?_, _, entries, .inr ⟨.empty, some fault.message, rfl⟩⟩
    simp only [shown, entries]
    rfl
  · have entries : Trace.entries (.logged (.echo line.raw) ::
        (tests.map Event.tested ++ [.logged .skipped])) = [.echo line.raw, .skipped] := by
      rw [← List.cons_append, entries_append, echoed]
      rfl
    rw [ran]
    refine ⟨.of_silent rfl rfl ?_, _, entries, .inl rfl⟩
    simp only [Step.ofEffect, shown, entries]
    rfl
  · have own := reserved _ _ found
    have written := own.written line.args state
    have last := own.last line.args state
    obtain ⟨still, handles⟩ := reserved.hands.run found replied holds
    rw [replied] at written last
    have logged := handleReply_logged line still handles
    obtain ⟨recorded, settlement⟩ := logged.step line.raw
    have begun : Trace.entries (.logged (.echo line.raw) ::
        (tests.map Event.tested ++ [.called line reply])) = [.echo line.raw] := by
      rw [← List.cons_append, entries_append, echoed]
      rfl
    rw [ran, Step.ofEffect_after]
    refine ⟨Recorded.trans (.of_silent written last ?_) recorded, _, ?_, .inr settlement⟩
    · simp only [shown, begun]
      rfl
    · rw [entries_append, begun, List.singleton_append]

/-- A step logs one block and records just the output that the block shows. In a canceled scope it
fails without a block. -/
theorem step_journal {engine : Engine} (reserved : engine.Reserved) (raw : String) {state : State}
    (holds : state.Holds Handle.Reserved) :
    (LineLog raw (engine.step raw state).trace.entries ∨ (engine.step raw state).trace.entries = [] ∧
        ∃ text cause, (engine.step raw state).sequel = .fail text cause) ∧
      Recorded state (engine.step raw state).trace (engine.step raw state).state := by
  obtain ⟨_, stepped⟩ |
    ⟨_, ⟨comment, stepped⟩ | ⟨fault, stepped⟩ | ⟨command, read, stepped⟩ | ⟨line, read, stepped⟩⟩ :=
    engine.step_shape raw state
  all_goals rw [stepped]
  · exact ⟨.inr ⟨rfl, _, _, rfl⟩, .of_silent rfl rfl rfl⟩
  · exact ⟨.inl (.comment comment), .of_silent rfl rfl rfl⟩
  · exact ⟨.inl (.unread fault), .of_silent rfl rfl rfl⟩
  · have blank : (Text.strip (Text.stripLineEnd raw)).isEmpty = true := by
      simpa [command] using Script.Line.silent_of_parse read
    exact ⟨.inl (.blank blank), .of_silent rfl rfl rfl⟩
  · obtain ⟨raw, _⟩ := Script.Line.words_of_parse read
    obtain ⟨recorded, rest, entries, ended⟩ := ofEffect_runLine reserved line holds
    refine ⟨.inl ?_, recorded⟩
    rw [entries, raw]
    rcases ended with rfl | settlement
    · exact .skipped
    · exact .ran settlement

/-- Lines log their blocks and record just the output that the blocks show. -/
theorem runLines_journal {engine : Engine} (reserved : engine.Reserved) (name : String)
    (count : Nat) (lines : List String) {state : State} (holds : state.Holds Handle.Reserved) :
    let progress := engine.runLines name count lines state
    Journal lines progress.trace.entries ∧ Recorded state progress.trace progress.state := by
  induction lines generalizing count state with
  | nil => exact ⟨.ended [], .of_silent rfl rfl rfl⟩
  | cons raw rest ih =>
    obtain ⟨block | ⟨silent, text, cause, failed⟩, recorded⟩ := step_journal reserved raw holds
    · have alone : Journal (raw :: rest) (engine.step raw state).trace.entries := by
        simpa using Journal.line block (.ended rest)
      rw [runLines]
      cases (engine.step raw state).sequel with
      | next =>
        have still := (engine.step_moves raw state).holds reserved.hands holds
        obtain ⟨journal, later⟩ := ih (count + 1) still
        refine ⟨?_, recorded.trans later⟩
        simpa [Progress.after] using Journal.line block journal
      | stop => exact ⟨alone, recorded.written, recorded.last⟩
      | fail text cause => exact ⟨alone, recorded⟩
      | escape fault => exact ⟨alone, recorded⟩
    · rw [runLines, failed]
      refine ⟨?_, recorded⟩
      simp only [silent]
      exact .ended _

end Engine

/-! ## Ends of scripts -/

namespace State
open Trace

/-- The last wait of a script records what it logs. -/
theorem finish_journal {state : State} (holds : state.Holds Handle.Reserved) (name : String)
    (lineno : Nat) : Settlement (state.finish name lineno).trace.entries ∧
      Recorded state (state.finish name lineno).trace (state.finish name lineno).state := by
  have waited := join_recorded holds
  have silent := state.entries_join
  have settled (output : Output) (note : Option String) :
      let entries := output.entries ++ note.toList.map .note
      Settlement (state.join.2.1 ++ .ofEntries entries).entries ∧
        Recorded state (state.join.2.1 ++ .ofEntries entries) (state.join.1.record output) := by
    refine ⟨⟨output, note, ?_⟩, waited.trans (.record _ output note)⟩
    rw [entries_append, silent, entries_ofEntries, List.nil_append]
  have ends := state.finishes name lineno
  generalize state.finish name lineno = run at ends ⊢
  cases ends with
  | idle => exact ⟨⟨.empty, none, rfl⟩, .of_silent rfl rfl rfl⟩
  | @ended output joined => simpa using settled output none
  | @failed failure output joined => exact settled output (some failure.message)
  | broken => exact ⟨⟨.empty, none, silent⟩, waited⟩

/-- The wait for what a failed script has left behind records nothing, and logs no output. -/
theorem abandon_journal {state : State} (holds : state.Holds Handle.Reserved) (fault : Fault) :
    Settlement (state.abandon fault).trace.entries ∧
      Recorded state (state.abandon fault).trace (state.abandon fault).state := by
  have waited := join_recorded holds
  have silent := state.entries_join
  have ends := state.abandons fault
  generalize state.abandon fault = run at ends ⊢
  cases ends with
  | idle => exact ⟨⟨.empty, none, rfl⟩, .of_silent rfl rfl rfl⟩
  | ended => exact ⟨⟨.empty, none, silent⟩, waited⟩
  | @failed failure output joined =>
    let message := "background: " ++ failure.message
    have noted : Recorded state.join.1 [.logged (.note message)]
        (state.join.1.note .debug ("background command failed after script error: " ++
          failure.message)) := .of_silent rfl rfl rfl
    refine ⟨⟨.empty, some message, ?_⟩, waited.trans noted⟩
    rw [entries_append, silent]
    rfl
  | broken => exact ⟨⟨.empty, none, silent⟩, waited⟩

theorem interrupt_journal {state : State} (holds : state.Holds Handle.Reserved) (fault : Fault) :
    Settlement (state.interrupt fault).trace.entries ∧
      Recorded state (state.interrupt fault).trace (state.interrupt fault).state := by
  rcases state.interrupt_cases fault with ⟨_, ended⟩ | ⟨_, ended⟩
  · rw [ended]
    exact abandon_journal holds fault
  · rw [ended]
    exact ⟨⟨.empty, none, rfl⟩, .of_silent rfl rfl rfl⟩

end State

theorem Ending.run_journal (ending : Ending) (name : String) (failure : Option Fault) {state : State}
    (holds : state.Holds Handle.Reserved) :
    Settlement (ending.run name failure state).trace.entries ∧
      Recorded state (ending.run name failure state).trace (ending.run name failure state).state := by
  cases ending with
  | finished lineno => cases failure with
    | none => exact State.finish_journal holds name lineno
    | some fault => exact State.interrupt_journal holds fault
  | stopped lineno => exact State.finish_journal holds name lineno
  | failed lineno text cause => exact State.abandon_journal holds _
  | escaped fault => exact ⟨⟨.empty, none, rfl⟩, .of_silent rfl rfl rfl⟩

/-! ## Scripts -/

/-- The states that scripts can come to run on: new ones, and what is left of them by scripts of
engines that leave the record to themselves, by recording output, and by changes that touch neither
the record nor the background. -/
inductive State.Reachable : State → Prop where
  | start (machine : Machine) (pwd : String) (env : Environment) :
    Reachable (State.start machine pwd env)
  | execute {state : State} (reachable : Reachable state) {engine : Engine}
    (reserved : engine.Reserved) (name : String) (source : Source) :
    Reachable (engine.execute name source state).state
  | record {state : State} (reachable : Reachable state) (output : Output) :
    Reachable (state.record output)
  | join {state : State} (reachable : Reachable state) : Reachable state.join.1
  | change {state after : State} (reachable : Reachable state)
    (written : after.written = state.written) (last : after.last = state.last)
    (background : after.background = state.background) : Reachable after

/-- The log of a run has a block for each line that was reached, in order, and one behind them, all
of whole lines; what it shows is what was recorded, and what was recorded last comes last. -/
structure Run.Journaled (run : Run) (lines : List String) (start : State) : Prop where
  blocks : ∃ early late, run.trace.entries = early ++ late ∧ Journal lines early ∧ Settlement late
  whole : ∀ entry ∈ run.trace.entries, entry.Whole
  written : run.state.written = start.written.append run.trace.shown
  last : start.EndsInLast ∧ run.state.EndsInLast

private theorem execute_blocks {engine : Engine} (reserved : engine.Reserved) (name : String)
    (source : Source) {state : State} (holds : state.Holds Handle.Reserved) :
    let run := engine.execute name source state
    (∃ early late, run.trace.entries = early ++ late ∧ Journal source.lines early ∧
      Settlement late) ∧ Recorded state run.trace run.state := by
  have attached : (engine.attach state).Holds Handle.Reserved := holds
  obtain ⟨journal, begun⟩ := Engine.runLines_journal reserved name 0 source.lines attached
  have reached := (engine.advance_moves name source.lines state).holds reserved.hands holds
  let progress := engine.advance name source.lines state
  obtain ⟨settlement, ended⟩ := progress.ending.run_journal name source.failure reached
  refine ⟨⟨_, _, ?_, journal, settlement⟩, ?_⟩
  · exact Trace.entries_append _ _
  · exact Recorded.trans ⟨begun.written, begun.last⟩ ended

/-- Nothing in a state that can be reached records output by itself, and what was recorded last is
the end of what was written. -/
theorem State.Reachable.sound {state : State} (reachable : state.Reachable) :
    state.Holds Handle.Reserved ∧ state.EndsInLast := by
  induction reachable with
  | start machine pwd env =>
    refine ⟨?_, .empty, rfl⟩
    simp [Holds, outstanding, State.start]
  | execute _ reserved name source ih =>
    obtain ⟨holds, ends⟩ := ih
    obtain ⟨_, recorded⟩ := execute_blocks reserved name source holds
    exact ⟨(Engine.execute_moves _ name source _).holds reserved.hands holds, recorded.last ends⟩
  | record _ output ih => exact ⟨ih.1, _, rfl⟩
  | @join state _ ih =>
    refine ⟨?_, (join_recorded ih.1).last ih.2⟩
    simp [Holds, outstanding, State.join]
  | change _ written last background ih =>
    refine ⟨?_, by rw [EndsInLast, written, last]; exact ih.2⟩
    rw [Holds, outstanding, background]
    exact ih.1

/-- However a script ends on a state that can be reached, what its log shows of output is what was
recorded meanwhile. -/
theorem Engine.execute_journal {engine : Engine} (reserved : engine.Reserved) (name : String)
    (source : Source) {state : State} (reachable : state.Reachable) :
    (engine.execute name source state).Journaled source.lines state := by
  obtain ⟨holds, ends⟩ := reachable.sound
  obtain ⟨⟨early, late, entries, journal, settlement⟩, recorded⟩ :=
    execute_blocks reserved name source holds
  refine ⟨⟨early, late, entries, journal, settlement⟩, ?_, recorded.written, ends, recorded.last ends⟩
  intro entry member
  rw [entries] at member
  rcases List.mem_append.mp member with first | second
  · exact journal.whole entry first
  · exact settlement.whole entry second

private theorem reserved_failingEngine : failingEngine.Reserved := by
  intro name command found
  rcases failingEngine_find found with ⟨rfl, rfl⟩ | ⟨rfl, rfl⟩
  · refine ⟨⟨fun _ _ holds => holds, ?_⟩, fun _ _ => rfl, fun _ _ => rfl⟩
    rintro args state _ ⟨⟩ scene
    exact ⟨rfl, rfl⟩
  · refine ⟨⟨fun _ _ holds => holds, ?_⟩, fun _ _ => rfl, fun _ _ => rfl⟩
    rintro (_ | ⟨arg, args⟩) state handle replied
    · cases replied
      trivial
    · cases replied

/-- Failures in the foreground and in the background, and a script that fails in the end. -/
theorem Engine.execute_journal_failing :
    let state := State.start .empty "/" .empty
    let source := Source.ofLines ["booma 'no' out err &\n", "? booma '' a b\n", "x\n"]
    failingEngine.Reserved ∧ state.Reachable ∧
      (failingEngine.execute "s" source state).Journaled source.lines state := by
  intro state source
  have reachable : state.Reachable := .start _ _ _
  exact ⟨reserved_failingEngine, reachable,
    execute_journal reserved_failingEngine "s" source reachable⟩

end LineScript
