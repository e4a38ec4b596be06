import LineScript.Path
import LineScript.Shell.State

/-!
# Commands of the shell
The commands that a shell does itself. Each gives the new state, with what it writes added to the
two streams and its status set.
-/
namespace LineScript.Shell

/-- The new state after a command, with its status. -/
def State.done (s : State) (status : Int) : State := { s with status := status }

def State.write (s : State) (chars : List Char) : State :=
  { s with stdout := s.stdout ++ toBytes chars }

def State.warn (s : State) (chars : List Char) : State :=
  { s with stderr := s.stderr ++ toBytes chars }

/-- A character that an escape with one letter stands for. -/
def letterEscape? : Char → Option Char
  | 'a' => some '\x07'
  | 'b' => some '\x08'
  | 'f' => some '\x0c'
  | 'n' => some '\n'
  | 'r' => some '\r'
  | 't' => some '\t'
  | 'v' => some '\x0b'
  | '\\' => some '\\'
  | _ => none

/-- The byte that octal digits write. -/
def octalByte (digits : List Char) : Char :=
  Char.ofNat (digits.foldl (fun n digit => n * 8 + (digit.toNat - 0x30)) 0 % 256)

/-- The octal digits at the front, at most `most` of them. -/
def octalDigits (most : Nat) (chars : List Char) : List Char :=
  (chars.take most).takeWhile fun c => '0' ≤ c && c ≤ '7'

/-- Text with its escapes replaced, and whether it asks for an end of all output. Octal numbers
begin with a zero in `echo` and need none in formats. -/
def unescape (leadingZero : Bool) : Nat → List Char → List Char × Bool
  | 0, chars => (chars, false)
  | _ + 1, [] => ([], false)
  | fuel + 1, '\\' :: c :: rest =>
    let octal := if leadingZero then if c = '0' then octalDigits 3 rest else []
      else octalDigits 3 (c :: rest)
    if c = 'c' then ([], true)
    else if leadingZero && c = '0' then
      let (after, stop) := unescape leadingZero fuel (rest.drop octal.length)
      (octalByte octal :: after, stop)
    else if !octal.isEmpty then
      let (after, stop) := unescape leadingZero fuel ((c :: rest).drop octal.length)
      (octalByte octal :: after, stop)
    else
      let (after, stop) := unescape leadingZero fuel rest
      match letterEscape? c with
      | some char => (char :: after, stop)
      | none => ('\\' :: c :: after, stop)
  | fuel + 1, c :: rest =>
    let (after, stop) := unescape leadingZero fuel rest
    (c :: after, stop)

/-- Writes the arguments with spaces between them and a line feed. -/
def echo (s : State) (args : List (List Char)) : State :=
  let (quiet, args) := match args with
    | ['-', 'n'] :: rest => (true, rest)
    | _ => (false, args)
  let text := [' '].intercalate args
  let (chars, stop) := unescape true (text.length + 1) text
  (s.write (if quiet || stop then chars else chars ++ ['\n'])).done 0

/-- Text with its first argument in place of each directive; gives the arguments left. -/
def formatOnce : Nat → List Char → List (List Char) → List Char × List (List Char)
  | 0, _, args => ([], args)
  | _ + 1, [], args => ([], args)
  | fuel + 1, '%' :: '%' :: rest, args =>
    let (after, left) := formatOnce fuel rest args
    ('%' :: after, left)
  | fuel + 1, '%' :: c :: rest, args =>
    let arg := args.headD []
    let (after, left) := formatOnce fuel rest args.tail
    let text := if c = 'c' then arg.take 1
      else if c = 'b' then (unescape true (arg.length + 1) arg).1
      else if c = 'd' ∨ c = 'i' ∨ c = 'u' then (if arg.isEmpty then ['0'] else arg)
      else arg
    (text ++ after, left)
  | fuel + 1, '\\' :: c :: rest, args =>
    let octal := octalDigits 3 (c :: rest)
    if octal.isEmpty then
      let (after, left) := formatOnce fuel rest args
      match letterEscape? c with
      | some char => (char :: after, left)
      | none => ('\\' :: c :: after, left)
    else
      let (after, left) := formatOnce fuel ((c :: rest).drop octal.length) args
      (octalByte octal :: after, left)
  | fuel + 1, c :: rest, args =>
    let (after, left) := formatOnce fuel rest args
    (c :: after, left)

/-- The format used again as long as it takes arguments and some are left. -/
def formatAll (pattern : List Char) : Nat → List (List Char) → List Char
  | 0, _ => []
  | fuel + 1, args =>
    let (text, left) := formatOnce (pattern.length + 1) pattern args
    if left.isEmpty || left.length = args.length then text
    else text ++ formatAll pattern fuel left

/-- Writes arguments as a format says. -/
def printf (s : State) (args : List (List Char)) : State :=
  match args with
  | [] => (s.warn (ofText (s.name ++ ": 1: printf: usage: printf format [arg ...]\n"))).done 2
  | pattern :: args => (s.write (formatAll pattern (args.length + 1) args)).done 0

/-- Signals by their names. -/
def signalNumber? (name : String) : Option Nat :=
  match name.toNat? with
  | some number => some number
  | none => [("HUP", 1), ("INT", 2), ("QUIT", 3), ("ILL", 4), ("TRAP", 5), ("ABRT", 6), ("BUS", 7),
      ("FPE", 8), ("KILL", 9), ("USR1", 10), ("SEGV", 11), ("USR2", 12), ("PIPE", 13),
      ("ALRM", 14), ("TERM", 15), ("CHLD", 17), ("CONT", 18), ("URG", 23), ("WINCH", 28)].lookup name

/-- Signals that a process ignores when it does nothing about them. -/
def ignoredSignals : List Nat := [0, 17, 18, 23, 28]

/-- Sends a signal; only one to the script itself does something. -/
def kill (s : State) (args : List (List Char)) : State :=
  let (signal, targets) := match args with
    | ['-', 's'] :: name :: rest => (signalNumber? (String.ofList name), rest)
    | ('-' :: name) :: rest => (signalNumber? (String.ofList name), rest)
    | _ => (some 15, args)
  match signal with
  | none => s.done 2
  | some signal =>
    if targets.contains (toString State.process).toList then
      if ignoredSignals.contains signal then s.done 0
      else { s with ended := some (-(signal : Int)) }
    else s.done 1

def number? (digits : List Char) : Option Nat :=
  if digits.isEmpty || !digits.all Char.isDigit then none else (String.ofList digits).toNat?

/-- Ends the script with a complaint about an argument of one of its commands. -/
def State.refuse (s : State) (command : String) (complaint : List Char) : State :=
  let s := s.warn (ofText (s.name ++ ": 1: " ++ command ++ ": ") ++ complaint ++ ['\n'])
  { s with ended := some 2 }

/-- What is said of an argument that should be a number. -/
def illegalNumber (arg : List Char) : List Char := "Illegal number: ".toList ++ arg

def exit (s : State) (args : List (List Char)) : State :=
  match args with
  | [] => { s with ended := some s.status }
  | code :: _ => match number? code with
    | some code => { s with ended := some (code % 256 : Nat) }
    | none => s.refuse "exit" (illegalNumber code)

def shift (s : State) (args : List (List Char)) : State :=
  match number? (args.headD ['1']) with
  | none => s.refuse "shift" (illegalNumber (args.headD []))
  | some count =>
    if s.arguments.length < count then s.refuse "shift" "can't shift that many".toList
    else { s with arguments := s.arguments.drop count, status := 0 }

def changeDirectory (s : State) (args : List (List Char)) : State :=
  let target := match args with
    | [] => toText (s.lookup "HOME")
    | name :: _ => toText name
  let path := Path.normalize (Path.join s.workdir target)
  if s.store.isDirectory path then
    { s with workdir := path, bindings := s.bindings.insert "PWD" path, status := 0 }
  else (s.warn (ofText (s.name ++ ": 1: cd: can't cd to " ++ target ++ "\n"))).done 2

/-- Reads from the empty input: every name becomes empty, and the status says that nothing was
read. -/
def readNothing (s : State) (args : List (List Char)) : State :=
  (args.foldl (fun s name => s.assign (toText name) []) s).done 1

/-- Decides a test, if it is one of the known ones. -/
def testHolds? (s : State) : List (List Char) → Option Bool
  | [] => some false
  | [word] => some !word.isEmpty
  | [['!'], word] => some word.isEmpty
  | [option, word] =>
    let path := Path.join s.workdir (toText word)
    match String.ofList option with
    | "-n" => some !word.isEmpty
    | "-z" => some word.isEmpty
    | "-e" => some (s.store.pathExists path)
    | "-f" => some (s.store.isFile path)
    | "-d" => some (s.store.isDirectory path)
    | "-x" => some (s.store.isExecutable path)
    | "-r" => some (s.store.pathExists path)
    | "-w" => some (s.store.pathExists path)
    | "-L" => some (s.store.isLink path)
    | "-h" => some (s.store.isLink path)
    | _ => none
  | [left, operator, right] =>
    let compare (holds : Int → Int → Bool) : Option Bool := do
      some (holds (← (String.ofList left).toInt?) (← (String.ofList right).toInt?))
    match String.ofList operator with
    | "=" => some (left == right)
    | "!=" => some (left != right)
    | "-eq" => compare (· == ·)
    | "-ne" => compare (· != ·)
    | "-lt" => compare (· < ·)
    | "-le" => compare (· ≤ ·)
    | "-gt" => compare (· > ·)
    | "-ge" => compare (· ≥ ·)
    | _ => none
  | _ => none

/-- Sets the status by a test, which may be negated. -/
def test (s : State) (args : List (List Char)) : State :=
  let holds := match args with
    | ['!'] :: a :: b :: rest => (testHolds? s (a :: b :: rest)).map not
    | _ => testHolds? s args
  match holds with
  | some true => s.done 0
  | some false => s.done 1
  | none => s.done 2

/-- Marks variables as part of the environment of programs, with values if they are given. -/
def exportNames (s : State) (args : List (List Char)) : State :=
  (args.foldl (fun s arg =>
    let name := toText (arg.takeWhile (· != '='))
    let s := { s with exported := name :: s.exported }
    match arg.dropWhile (· != '=') with
    | _ :: value => s.assign name value
    | [] => s) s).done 0

/-- The command of the shell with a name. -/
def builtin? (name : String) : Option (State → List (List Char) → State) :=
  match name with
  | ":" => some fun s _ => s.done 0
  | "true" => some fun s _ => s.done 0
  | "false" => some fun s _ => s.done 1
  | "echo" => some echo
  | "printf" => some printf
  | "kill" => some kill
  | "exit" => some exit
  | "read" => some readNothing
  | "cd" => some changeDirectory
  | "pwd" => some fun s _ => (s.write (ofText s.workdir ++ ['\n'])).done 0
  | "test" => some test
  | "[" => some fun s args =>
    if args.getLast? = some [']'] then test s args.dropLast
    else (s.warn (ofText (s.name ++ ": 1: [: missing ]\n"))).done 2
  | "export" => some exportNames
  | "unset" => some fun s args =>
    { s with
      bindings := ⟨s.bindings.entries.filter fun entry => !args.contains (ofText entry.1)⟩
      status := 0 }
  | "shift" => some shift
  | "set" => some fun s args =>
    { s with
      arguments := if args.head? = some ['-', '-'] then args.tail else args
      status := 0 }
  | _ => none

end LineScript.Shell
