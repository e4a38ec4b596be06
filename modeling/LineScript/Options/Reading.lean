import LineScript.Options

/-!
# Reading options
The words of a command line are scripts to run and options. An option is a hyphen and a letter, or
one or two hyphens and a word. Letters can be written together; a value follows its option directly
or as the next word, after the word of an option also behind an equals sign. Behind two hyphens
alone everything is a script.
-/
namespace LineScript

/-- What an option asks for. -/
inductive Choice where
  | command
  | interactive
  | log
  | stdout
  | stderr
  | settings
  | verbose
  | help
  deriving DecidableEq, Repr

namespace Choice

def words : List (String × Choice) := [
  ("-log", .log), ("--log", .log), ("-stdout", .stdout), ("--stdout", .stdout),
  ("-stderr", .stderr), ("--stderr", .stderr), ("-config", .settings), ("--config", .settings),
  ("--verbose", .verbose), ("-help", .help), ("--help", .help)]

def letters : List (Char × Choice) := [
  ('c', .command), ('i', .interactive), ('v', .verbose), ('h', .help)]

def takesValue : Choice → Bool
  | .command => true
  | .settings => true
  | _ => false

end Choice

/-- What a word asks for: choices without values, and perhaps one that takes a value, which may be
part of the word. -/
structure OptionWord where
  plain : List Choice
  valued : Option (Choice × Option String)

/-- Letters that are written together; what follows a letter that takes a value is its value. -/
def OptionWord.ofLetters (plain : List Choice) : List Char → Option OptionWord
  | [] => some ⟨plain, none⟩
  | letter :: rest => match Choice.letters.lookup letter with
    | none => none
    | some choice =>
      if choice.takesValue then
        some ⟨plain, some (choice, if rest.isEmpty then none else some (String.ofList rest))⟩
      else ofLetters (plain ++ [choice]) rest

/-- What a word that begins with a hyphen asks for, if it is known. -/
def OptionWord.read? (word : String) : Option OptionWord :=
  let (name, value) := (word.toList.takeWhile (· != '='), word.toList.dropWhile (· != '='))
  let value := if value.isEmpty then none else some (String.ofList (value.drop 1))
  match Choice.words.lookup (String.ofList name) with
  | some choice =>
    if choice.takesValue then some ⟨[], some (choice, value)⟩
    else if value.isSome then none
    else some ⟨[choice], none⟩
  | none =>
    if "--".toList.isPrefixOf word.toList then none else ofLetters [] (word.toList.drop 1)

namespace Options

/-- Adds a choice that has no value. -/
def choose (options : Options) : Choice → Options
  | .interactive => { options with isInteractive := true }
  | .log => { options with channels := { options.channels with log := true } }
  | .stdout => { options with channels := { options.channels with stdout := true } }
  | .stderr => { options with channels := { options.channels with stderr := true } }
  | .verbose => { options with isVerbose := true }
  | .help => { options with wantsHelp := true }
  | .command => options
  | .settings => options

/-- Adds a choice with its value; a later value wins. -/
def assign (options : Options) (choice : Choice) (value : String) : Options :=
  match choice with
  | .command => { options with command := some value }
  | .settings => { options with settings := some value }
  | _ => options.choose choice

def isOption (word : String) : Bool := word.toList.head? == some '-' && word != "-"

/-- Reads the words of a command line on; there are no options if a word is not known or a value is
missing. -/
def readFrom (options : Options) : List String → Option Options
  | [] => some options
  | word :: rest =>
    if word = "--" then some { options with scripts := options.scripts ++ rest }
    else if !isOption word then readFrom { options with scripts := options.scripts ++ [word] } rest
    else match OptionWord.read? word with
      | none => none
      | some ⟨plain, valued⟩ =>
        let options := plain.foldl choose options
        match valued with
        | none => readFrom options rest
        | some (choice, some value) => readFrom (options.assign choice value) rest
        | some (choice, none) => match rest with
          | [] => none
          | value :: rest => readFrom (options.assign choice value) rest

def read (words : List String) : Option Options := readFrom empty words

end Options

end LineScript
