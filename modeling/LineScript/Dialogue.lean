import LineScript.Report

/-!
# Dialogues
In a dialogue the chunks of a stream are run one after the other, all against one state, and what
each of them writes is shown at once. A chunk that is nothing but the word `stop` ends the dialogue,
and so does the end of the stream; a chunk that fails does not.
-/
namespace LineScript

/-- The word that ends a dialogue. -/
def farewell : String := "stop"

/-- The chunk ends the dialogue. -/
def endsDialogue (chunk : String) : Bool := chunk.isEmpty || Text.strip chunk == farewell

/-- A chunk that was run, with the state before it. -/
structure Exchange where
  chunk : String
  before : State
  run : Run

/-- How a dialogue came to its end: with a chunk that ends it, or with a fault in reading a chunk
or in running one. -/
inductive Parting where
  | stopped
  | unread (fault : Fault)
  | escaped (fault : Fault)

/-- The name that every chunk is run under. -/
def dialogueName : String := "stdin"

/-- Runs chunks until one ends the dialogue. After the last chunk the stream has come to its end,
or fails. -/
def Engine.converse (engine : Engine) (failure : Option Fault) :
    List String → State → List Exchange × Parting
  | [], _ => ([], match failure with
    | some fault => .unread fault
    | none => .stopped)
  | chunk :: rest, state =>
    if endsDialogue chunk then ([], .stopped)
    else
      let run := engine.execute dialogueName (.ofText chunk) state
      let exchange : Exchange := ⟨chunk, state, run⟩
      let next := engine.converse failure rest run.state
      match run.result with
      | .ok () => (exchange :: next.1, next.2)
      | .error fault =>
        if fault.isScript then (exchange :: next.1, next.2) else ([exchange], .escaped fault)

namespace Exchange

/-- A text without as many characters at its front as another one has. -/
def added (before after : String) : String :=
  String.ofList (after.toList.drop before.length)

/-- What the chunk added to what is written. -/
def output (exchange : Exchange) : Output :=
  let before := exchange.before.written
  let after := exchange.run.state.written
  ⟨added before.stdout after.stdout, added before.stderr after.stderr⟩

/-- The notes that were made while the chunk ran. -/
def notes (exchange : Exchange) : List Diagnostic :=
  exchange.run.state.diagnostics.drop exchange.before.diagnostics.length

/-- What the chunk makes the program print. -/
def emissions (exchange : Exchange) : List Emission :=
  Emission.ofNotes exchange.notes ++ match exchange.run.result with
    | .ok () => Emission.ofOutput exchange.output.present
    | .error fault => if fault.isScript then [.message ("Error: " ++ fault.message)] else []

end Exchange

/-- A dialogue that has come to its end. -/
structure Dialogue where
  machine : Machine
  /-- How often the stream was asked for a chunk. -/
  reads : Nat
  emissions : List Emission
  /-- The log of all chunks, or the fault that the dialogue ended in. -/
  result : Except Fault String

/-- What asks for a chunk, on a terminal. -/
def promptFor (terminal : Bool) : List Emission := if terminal then [.err "> "] else []

/-- The dialogue that exchanges make, with its end. -/
def Dialogue.ofExchanges (terminal : Bool) (machine : Machine) (exchanges : List Exchange)
    (parting : Parting) : Dialogue :=
  let spoken := exchanges.flatMap fun exchange => promptFor terminal ++ exchange.emissions
  let log := String.join (exchanges.map (·.run.trace.log))
  let machine := (exchanges.getLast?.map (·.run.state.machine)).getD machine
  match parting with
  | .stopped =>
    ⟨machine, exchanges.length + 1,
      spoken ++ promptFor terminal ++ [.note (runNote .debug "Interactive session stopped")],
      .ok log⟩
  | .unread fault => ⟨machine, exchanges.length + 1, spoken ++ promptFor terminal, .error fault⟩
  | .escaped fault => ⟨machine, exchanges.length, spoken, .error fault⟩

/-- Holds a dialogue on a fresh engine and state. -/
def Settings.converse (settings : Settings) (machine : Machine) (terminal : Bool)
    (source : Source) : Dialogue :=
  let begin : Except Fault (Engine × State) := do
    let engine ← Engine.standard.extendNamed settings.naming
    let state ← settings.state machine
    return (engine, state)
  match begin with
  | .error fault => ⟨machine, 0, [], .error fault⟩
  | .ok (engine, state) =>
    let (exchanges, parting) := engine.converse source.failure source.lines state
    .ofExchanges terminal machine exchanges parting

end LineScript
