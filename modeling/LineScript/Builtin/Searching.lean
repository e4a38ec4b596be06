import LineScript.Builtin.Looking
import LineScript.Numeral.Integer
import LineScript.Pattern

/-!
# Commands that search
Searches for a pattern in a file or in the last output. Without a count there must be a match;
with one there must be exactly as many. Flags stand before the pattern, and the last word is the
pattern even if it looks like a flag.
-/
namespace LineScript.Builtin

/-- The problem with a pattern as a fault. -/
def patternFault : Pattern.Problem → Fault
  | .defect defect => .usage (.invalidPattern defect)
  | .repetitionTooLarge => .overflow .repetition
  | .codeTooLarge => .overflow .code
  | .clashingFlags => .value .clashingFlags
  | .tooManyDigits digits => .value (.tooManyDigits digits)

/-- The word that begins the flag for a count. -/
def countFlag : List Char := "-count=".toList

/-- What one flag says: nothing, or how many matches there must be. -/
def readFlag (flag : String) : Except UsageFault (Option Int) :=
  if flag = "-q" then .ok none
  else if countFlag.isPrefixOf flag.toList then
    match Numeral.readInteger? (String.ofList (flag.toList.drop countFlag.length)) with
    | none => .error (.invalidCount flag)
    | some count => if count < 1 then .error .countTooSmall else .ok (some count)
  else .error (.unknownFlag flag)

/-- Takes the flags from the front of the arguments; the last count wins. -/
def takeFlags (count : Option Int) : List String → Except UsageFault (Option Int × List String)
  | [] => .ok (count, [])
  | [word] => .ok (count, [word])
  | flag :: rest =>
    if flag.toList.head? = some '-' then
      match readFlag flag with
      | .ok said => takeFlags (said.or count) rest
      | .error fault => .error fault
    else .ok (count, flag :: rest)

/-- The number of matches is as wanted. -/
def judge (found : Nat) (count : Option Int) (pattern name : String) : Except Failure Unit :=
  match count with
  | some count =>
    if (found : Int) = count then .ok () else .error (.wrongCount found pattern name count)
  | none => if found = 0 then .error (.noMatch pattern name) else .ok ()

/-- Searches for a pattern in what the words after it name: a text, and its name for messages. -/
def search (machine : Machine) (content : List String → Except Fault (String × String))
    (args : List String) : Except Fault Reply := do
  match takeFlags none args with
  | .error fault => throw (.usage fault)
  | .ok (_, []) => throw (.usage .arguments)
  | .ok (count, pattern :: rest) =>
    match Pattern.compile machine.platform.character pattern with
    | .error problem => throw (patternFault problem)
    | .ok compiled =>
      let (text, name) ← content rest
      match judge (compiled.count text) count pattern name with
      | .ok () => return .done
      | .error failure => throw (.failure failure)

def grep (args : List String) (state : State) : Except Fault Reply :=
  search state.machine (fun
    | [name] => return (← readText state.toScene name, name)
    | _ => throw (.usage .arguments)) args

/-- Searches in text that needs no naming. -/
def searchLast (machine : Machine) (text name : String) (args : List String) :
    Except Fault Reply :=
  search machine
    (fun rest => if rest.isEmpty then return (text, name) else throw (.usage .arguments)) args

def searchStdout (args : List String) (state : State) : Except Fault Reply :=
  searchLast state.machine state.last.stdout "stdout" args

def searchStderr (args : List String) (state : State) : Except Fault Reply :=
  searchLast state.machine state.last.stderr "stderr" args

end LineScript.Builtin
