import LineScript.Dialogue
import LineScript.Proofs.Appending
import LineScript.Proofs.Clean

/-!
# What a dialogue runs and shows
A dialogue runs the chunks of its stream up to the first that ends it, each on the state that the
chunks before it have left, and asks for no chunk behind that one. What a chunk has added to the
output is shown once, if the chunk ended well; of a chunk that failed nothing but the failure is
shown (`converse_turns`).
-/
namespace LineScript

/-! ## Turns -/

/-- What a stream hands out when it is asked for a chunk. -/
inductive Chunk where
  | text (content : String)
  | bytes (content : List UInt8)

/-- The chunk as it is taken: bytes that form no character are replaced. -/
def Chunk.read : Chunk → String
  | .text content => content
  | .bytes content => Text.Utf8.decode content

namespace Engine

variable (engine : Engine)

def turn (chunk : String) (state : State) : Run :=
  engine.execute dialogueName (.ofText chunk) state

/-- The state that chunks leave when they are run in order. -/
def stateAfter (chunks : List String) (state : State) : State :=
  chunks.foldl (fun state chunk => (engine.turn chunk state).state) state

/-- The state before the chunk with a number: the chunks in front of it have been run. -/
def stateBefore (chunks : List String) (state : State) (number : Nat) : State :=
  engine.stateAfter (chunks.take number) state

/-- The run of the chunk with a number, on the state that the chunks in front of it have left. -/
def turnAt (chunks : List String) (state : State) (number : Nat) : Run :=
  engine.turn (chunks.getD number "") (engine.stateBefore chunks state number)

end Engine

theorem Engine.stateBefore_succ (engine : Engine) {chunks : List String} (state : State)
    {number : Nat} (below : number < chunks.length) :
    engine.stateBefore chunks state (number + 1) = (engine.turnAt chunks state number).state := by
  rw [stateBefore, stateAfter, List.take_succ_eq_append_getElem below, List.foldl_append]
  simp [turnAt, stateBefore, stateAfter, below]

/-- The run ends well or in a fault of scripts. -/
def Run.IsCalm (run : Run) : Prop := ∀ fault, run.result = .error fault → fault.isScript = true

/-- How many chunks are run: those in front of the first one that ends the dialogue. -/
def turnCount (chunks : List String) : Nat := chunks.findIdx endsDialogue

/-- The exchanges of a dialogue are the turns of the chunks that are run, in order. -/
theorem Engine.converse_eq (engine : Engine) (chunks : List String) (state : State)
    (calm : ∀ number < turnCount chunks, (engine.turnAt chunks state number).IsCalm) :
    engine.converse none chunks state = ((List.range (turnCount chunks)).map fun number =>
      ⟨chunks.getD number "", engine.stateBefore chunks state number,
        engine.turnAt chunks state number⟩, .stopped) := by
  induction chunks generalizing state with
  | nil => rfl
  | cons chunk rest ih =>
    cases ends : endsDialogue chunk with
    | true => simp [converse, turnCount, List.findIdx_cons, ends]
    | false =>
      have count : turnCount (chunk :: rest) = turnCount rest + 1 := by
        simp [turnCount, List.findIdx_cons, ends]
      -- the later turns are those of the rest, on the state that the first turn leaves
      have later := ih (engine.turn chunk state).state fun number below =>
        calm (number + 1) (by omega)
      have first : (engine.turn chunk state).IsCalm := calm 0 (by omega)
      rw [count, List.range_succ_eq_map, List.map_cons, List.map_map]
      have goesOn : engine.converse none (chunk :: rest) state =
          (⟨chunk, state, engine.turn chunk state⟩ ::
            (engine.converse none rest (engine.turn chunk state).state).1,
              (engine.converse none rest (engine.turn chunk state).state).2) := by
        simp only [converse, ends]
        cases result : (engine.turn chunk state).result with
        | ok =>
          rw [turn] at result
          simp [result, turn]
        | error fault =>
          have script := first fault result
          rw [turn] at result
          simp [result, turn, script]
      rw [goesOn, later]
      rfl

/-! ## What is shown of a turn -/

/-- What is shown of a run on a state: its own notes, and then just the output that it has appended
to what was written, if it ended well, or else just its fault. -/
def Run.Shows (run : Run) (before : State) (shown : List Emission) : Prop :=
  ∃ output notes, run.state.written = before.written.append output ∧
    run.state.diagnostics = before.diagnostics ++ notes ∧
    shown = Emission.ofNotes notes ++ match run.result with
      | .ok () => Emission.ofOutput output.present
      | .error fault => [.message ("Error: " ++ fault.message)]

theorem Exchange.added_append (before more : String) : added before (before ++ more) = more := by
  have front : before.length = before.toList.length := String.length_toList.symm
  rw [added, String.toList_append, front, List.drop_left, String.ofList_toList]

theorem Exchange.shows {exchange : Exchange} (calm : exchange.run.IsCalm)
    (grown : Grown exchange.before exchange.run.state) :
    exchange.run.Shows exchange.before exchange.emissions := by
  obtain ⟨⟨output, written⟩, ⟨notes, noted⟩⟩ := grown
  have own : exchange.output = output := by
    rw [Exchange.output, written]
    simp [Output.append, added_append]
  have fresh : exchange.notes = notes := by
    rw [Exchange.notes, ← noted, List.drop_left]
  refine ⟨output, notes, written, noted.symm, ?_⟩
  rw [emissions, own, fresh]
  cases result : exchange.run.result with
  | ok => rfl
  | error fault => simp [calm fault result]

/-- A state is refused for a reason that is reported, or for a NUL in the name of a user; or it
starts in a directory, with the environment that the entries write. -/
theorem State.create_cases (machine : Machine) (workdir : String) (entries : List String) :
    (∃ refusal, State.create machine workdir entries = .error (.context refusal)) ∨
      State.create machine workdir entries = .error (.value .embeddedNul) ∧
        Files.Store.hasNul workdir = true ∨
      ∃ pwd env, State.create machine workdir entries = .ok (.start machine pwd env) ∧
        machine.store.isDirectory pwd = true ∧ Environment.ofEntries entries = .ok env := by
  unfold State.create
  cases expanded : machine.expandHome workdir with
  | error fault =>
    obtain ⟨rfl, nul⟩ := Machine.expandHome_error expanded
    right; left
    exact ⟨rfl, nul⟩
  | ok path =>
    simp only [bind, Except.bind]
    cases absolute : machine.absolute path with
    | error fault =>
      left
      exact ⟨_, rfl⟩
    | ok pwd =>
      by_cases directory : machine.store.isDirectory pwd = true
      · simp only [if_pos directory]
        cases Environment.ofEntries entries with
        | error fault =>
          left
          exact ⟨fault, rfl⟩
        | ok env =>
          right; right
          exact ⟨pwd, env, rfl, directory, rfl⟩
      · simp only [if_neg directory]
        left
        exact ⟨_, rfl⟩

/-- A state that was just made is on the machine that it was made on, and nothing is in its
background. -/
theorem Settings.state_eq_start {settings : Settings} {machine : Machine} {state : State}
    (created : settings.state machine = .ok state) : ∃ pwd env, state = .start machine pwd env := by
  obtain ⟨_, refused⟩ | ⟨refused, _⟩ | ⟨pwd, env, started, _⟩ :=
    State.create_cases machine settings.workdir machine.environ.toEntries
  · simp [Settings.state, refused] at created
  · simp [Settings.state, refused] at created
  · refine ⟨pwd, env, ?_⟩
    simpa [Settings.state, started] using created.symm

/-- However many chunks were run, no handle in the background takes back what was written. -/
theorem Engine.stateAfter_holds {engine : Engine} (discreet : engine.Discreet)
    (chunks : List String) {state : State} (holds : state.Holds Handle.Discreet) :
    (engine.stateAfter chunks state).Holds Handle.Discreet := by
  induction chunks generalizing state with
  | nil => exact holds
  | cons chunk rest ih =>
    exact ih (engine.execute_grows discreet dialogueName (.ofText chunk) holds).2

/-! ## The dialogue -/

theorem Settings.IsValid.naming {settings : Settings} (valid : settings.IsValid) : ∃ naming,
    Engine.standard.extendNamed settings.naming = .ok (Engine.standard.extend naming) := by
  have known : settings.naming = "descriptive" ∨ settings.naming = "short" := by
    simpa [namings] using valid.1
  rcases known with named | named
  · exact ⟨.descriptive, by rw [named]; rfl⟩
  · exact ⟨.short, by rw [named]; rfl⟩

/-- A dialogue off the terminal, whose chunks end well or in faults of scripts, runs the chunks in
front of the first that ends it, one after the other on one state, and asks for that one and no
more. Its result is the log of all turns; what it prints is shown turn by turn. -/
theorem Settings.converse_turns (settings : Settings) (machine : Machine)
    (valid : settings.IsValid) (state : State) (created : settings.state machine = .ok state)
    (chunks : List Chunk) :
    ∃ engine, Engine.standard.extendNamed settings.naming = .ok engine ∧
      let texts := chunks.map Chunk.read
      let turns := List.range (turnCount texts)
      let dialogue := settings.converse machine false (.ofLines texts)
      (∀ number ∈ turns, (engine.turnAt texts state number).IsCalm) →
        engine.converse none texts state = (turns.map fun number =>
          ⟨texts.getD number "", engine.stateBefore texts state number,
            engine.turnAt texts state number⟩, .stopped) ∧
        dialogue.reads = turnCount texts + 1 ∧
        dialogue.machine = (engine.stateBefore texts state (turnCount texts)).machine ∧
        dialogue.result =
          .ok (String.join (turns.map fun number => (engine.turnAt texts state number).trace.log)) ∧
        ∃ shown : Nat → List Emission,
          (∀ number ∈ turns, (engine.turnAt texts state number).Shows
            (engine.stateBefore texts state number) (shown number)) ∧
          dialogue.emissions =
            turns.flatMap shown ++ [.note (runNote .debug "Interactive session stopped")] := by
  obtain ⟨naming, named⟩ := valid.naming
  refine ⟨_, named, ?_⟩
  intro texts turns dialogue calm
  generalize chosen : Engine.standard.extend naming = engine at named calm ⊢
  have discreet : engine.Discreet := chosen ▸ Engine.discreet_extend naming
  obtain ⟨pwd, env, started⟩ := Settings.state_eq_start created
  have fresh : state.Holds Handle.Discreet := by
    simp [State.Holds, State.outstanding, started, State.start]
  have exchanged := engine.converse_eq texts state fun number below =>
    calm number (List.mem_range.mpr below)
  have held : dialogue = .ofExchanges false machine (engine.converse none texts state).1
      (engine.converse none texts state).2 := by
    simp only [dialogue, Settings.converse, named, created, Source.ofLines]
    rfl
  rw [exchanged] at held
  refine ⟨exchanged, ?_, ?_, ?_, fun number => Exchange.emissions ⟨texts.getD number "",
    engine.stateBefore texts state number, engine.turnAt texts state number⟩, ?_, ?_⟩
  · simp [held, Dialogue.ofExchanges]
  · have short : turnCount texts ≤ texts.length := List.findIdx_le_length
    rw [held]
    cases count : turnCount texts with
    | zero =>
      simp [Dialogue.ofExchanges, Engine.stateBefore, Engine.stateAfter, started, State.start]
    | succ last =>
      rw [engine.stateBefore_succ state (by omega), List.range_succ]
      simp [Dialogue.ofExchanges]
  · simp [held, Dialogue.ofExchanges, turns, Function.comp_def]
  · intro number member
    have holds := engine.stateAfter_holds discreet (texts.take number) fresh
    have grown := engine.execute_grows discreet dialogueName (.ofText (texts.getD number "")) holds
    exact @Exchange.shows ⟨_, _, engine.turnAt texts state number⟩ (calm number member) grown.1
  · simp [held, Dialogue.ofExchanges, promptFor, turns, List.flatMap_map]

/-- A comment in bytes and a line that cannot be read are run, and the third chunk ends the
dialogue: three chunks are asked for, and the log is that of the first two. -/
theorem Settings.converse_turns_stopped :
    let settings : Settings := ⟨false, false, false, "short", "/"⟩
    let machine : Machine := .empty
    let chunks := [Chunk.bytes [0x23, 0x0a], .text "'\n", .text " stop\n", .text "echo a\n"]
    let dialogue := settings.converse machine false (.ofLines (chunks.map Chunk.read))
    settings.IsValid ∧ settings.state machine = .ok (.start machine "/" .empty) ∧
      dialogue.reads = 3 ∧ dialogue.result = .ok "#\n[unterminated quoted argument]\n" := by
  intro settings machine chunks dialogue
  have valid : settings.IsValid := by decide
  have created : settings.state machine = .ok (.start machine "/" .empty) :=
    State.create_root machine rfl
  have texts : chunks.map Chunk.read = ["#\n", "'\n", " stop\n", "echo a\n"] := by decide
  obtain ⟨engine, _, held⟩ := settings.converse_turns machine valid _ created chunks
  have first : engine.turnAt ["#\n", "'\n", " stop\n", "echo a\n"] (.start machine "/" .empty) 0 =
      ⟨engine.attach (.start machine "/" .empty), [.logged (.comment "#")], .ok ()⟩ := by
    simp only [machine]
    rfl
  have second : engine.turnAt ["#\n", "'\n", " stop\n", "echo a\n"] (.start machine "/" .empty) 1 =
      ⟨engine.attach (.start machine "/" .empty),
        [.logged (.note "unterminated quoted argument")],
        .error (.execution "stdin" 1 "'" (.parse .unterminatedQuote))⟩ := by
    simp only [machine]
    rfl
  have count : turnCount ["#\n", "'\n", " stop\n", "echo a\n"] = 2 := by decide
  simp only [texts, count] at held
  obtain ⟨_, reads, _, result, _⟩ := held fun number member fault failed => by
    obtain rfl | rfl : number = 0 ∨ number = 1 := by
      have below := List.mem_range.mp member
      omega
    · rw [first] at failed
      cases failed
    · rw [second] at failed
      cases failed
      rfl
  simp only [dialogue, texts]
  refine ⟨valid, created, reads, ?_⟩
  rw [result]
  simp only [List.range_succ_eq_map, List.range_zero, List.map_cons, List.map_nil, first, second]
  rfl

end LineScript
