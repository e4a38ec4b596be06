import LineScript.Calendar
import LineScript.Text.Quoted
import LineScript.Text.Utf8
import LineScript.Pattern.Defect
import LineScript.Files.Refusal
import LineScript.Script.Guard

/-!
# Faults
Everything that can go wrong, by its cause, and the words for it. A script ends with an execution
fault that names the line and holds the fault of that line.
-/
namespace LineScript

/-- What a command writes to its two streams. -/
structure Output where
  stdout : String
  stderr : String
  deriving DecidableEq, Repr

def Output.empty : Output := ⟨"", ""⟩

/-- What the system reports. -/
inductive SystemFault where
  | refused (number : Int) (reason : String) (paths : List String)
  | worded (number : Int) (text : String)
  | sameFile (source target : String)
  deriving DecidableEq, Repr

/-- A refusal that concerns paths. -/
def SystemFault.ofRefusal (refusal : Files.Refusal) (paths : List String) : SystemFault :=
  .refused refusal.number refusal.reason paths

/-- The report in words; the paths that it concerns are quoted. -/
def SystemFault.message : SystemFault → String
  | .refused number reason paths =>
    let head := "[Errno " ++ toString number ++ "] " ++ reason
    if paths.isEmpty then head
    else head ++ ": " ++ " -> ".intercalate (paths.map Text.quoted)
  | .worded _ text => text
  | .sameFile source target =>
    Text.quoted source ++ " and " ++ Text.quoted target ++ " are the same file"

/-- Faults of a line before its command runs. -/
inductive LineFault where
  | canceled
  | unknownCommand (name : String)
  deriving DecidableEq, Repr

def LineFault.message : LineFault → String
  | .canceled => "context canceled"
  | .unknownCommand name => "unknown command " ++ Text.quoted name

/-- Wrong ways to call a command. -/
inductive UsageFault where
  | arguments
  | noBackground (name : String)
  | unknownCommand (name : String)
  | unknownCondition (name : String)
  | invalidCount (flag : String)
  | countTooSmall
  | unknownFlag (flag : String)
  | invalidPattern (defect : Pattern.Defect)
  | invalidDuration (text : String)

def UsageFault.message : UsageFault → String
  | .arguments => "usage error"
  | .noBackground name => name ++ " does not support background execution"
  | .unknownCommand name => "unknown command " ++ Text.quoted name
  | .unknownCondition name => "unknown condition " ++ Text.quoted name
  | .invalidCount flag => "invalid count " ++ Text.quoted flag
  | .countTooSmall => "-count must be at least 1"
  | .unknownFlag flag => "unknown flag " ++ flag
  | .invalidPattern defect => "invalid pattern: " ++ defect.message
  | .invalidDuration text => "invalid duration " ++ Text.quoted text

/-- Reasons why no state can be made for a script. -/
inductive ContextFault where
  | noWorkdir (fault : SystemFault)
  | notDirectory (path : String)
  | malformedEntry (entry : String)
  deriving DecidableEq, Repr

def ContextFault.message : ContextFault → String
  | .noWorkdir fault => "cannot determine working directory: " ++ fault.message
  | .notDirectory path => "working directory " ++ path ++ " is not a directory"
  | .malformedEntry entry => "malformed environment entry: " ++ Text.quoted entry

/-- Reasons why a condition cannot be evaluated. -/
inductive ConditionFault where
  | unknown (name : String)
  | needsSuffix (guard : Script.Guard)
  | takesNoSuffix (name : String)
  | noProgramName
  | worded (message : String)
  deriving DecidableEq, Repr

def ConditionFault.message : ConditionFault → String
  | .unknown name => "unknown condition " ++ Text.quoted name
  | .needsSuffix guard => "condition " ++ guard.print ++ " requires a suffix"
  | .takesNoSuffix name => "condition " ++ Text.quoted name ++ " does not accept a suffix"
  | .noProgramName => "exec condition requires a program name"
  | .worded message => message

/-- Reasons why a command fails. -/
inductive Failure where
  | worded (message : String)
  | unexpectedSuccess
  | exitStatus (code : Int)
  | system (fault : SystemFault)
  | notDirectory (path : String)
  | invalidName (key : String)
  | noDestination (path : String)
  | notExecutableFile (name : String)
  | programNotFound (name : String)
  | doesNotExist (name : String)
  | isWritable (name : String)
  | isNotExecutable (name : String)
  | wrongCount (found : Nat) (pattern name : String) (want : Int)
  | noMatch (pattern name : String)
  | noEngine
  | background (failures : List (String × String))
  deriving DecidableEq, Repr

def Failure.message : Failure → String
  | .worded message => message
  | .unexpectedSuccess => "unexpected command success"
  | .exitStatus code => "exit status " ++ toString code
  | .system fault => fault.message
  | .notDirectory path => path ++ ": not a directory"
  | .invalidName key => "invalid environment variable name: " ++ Text.quoted key
  | .noDestination path => "destination " ++ path ++ " is not a directory"
  | .notExecutableFile name => name ++ ": not an executable file"
  | .programNotFound name => "exec: \"" ++ name ++ "\": executable file not found in $PATH"
  | .doesNotExist name => name ++ " does not exist"
  | .isWritable name => name ++ " exists but is writable"
  | .isNotExecutable name => name ++ " exists but is not executable"
  | .wrongCount found pattern name want =>
    "found " ++ toString found ++ " matches for `" ++ pattern ++ "` in " ++ name ++ ", want " ++
      toString want
  | .noMatch pattern name => "no match for `" ++ pattern ++ "` found in " ++ name
  | .noEngine => "help: no engine attached to state"
  | .background failures =>
    "; ".intercalate (failures.map fun failure => failure.1 ++ ": " ++ failure.2)

/-- Reasons why settings are refused. Values are given as they are shown. -/
inductive SettingsFault where
  | notMapping (path : String)
  | unknownKeys (path : String) (keys : List String)
  | notBoolean (name value : String)
  | unknownNaming (value : String)
  | emptyWorkdir
  | malformed (path : String)
  deriving DecidableEq, Repr

def SettingsFault.message : SettingsFault → String
  | .notMapping path => "Config file " ++ path ++ " must contain a mapping"
  | .unknownKeys path keys => "Unknown config keys in " ++ path ++ ": " ++ ", ".intercalate keys
  | .notBoolean name value => name ++ " must be true or false, got: " ++ value
  | .unknownNaming value => "condition_names must be one of descriptive, short, got: " ++ value
  | .emptyWorkdir => "workdir must be a non-empty string"
  | .malformed path => "Invalid YAML in " ++ path

/-- Values that an operation cannot take. -/
inductive ValueFault where
  | embeddedNul
  | unknownNaming (name : String)
  | clashingFlags
  | tooManyDigits (digits : Nat)
  | unshowable
  | notInteger (base : Nat) (text : String)
  | notNumber (text : String)
  | codeOutOfRange
  | calendar (misfit : Calendar.Misfit)
  deriving DecidableEq, Repr

def ValueFault.message : ValueFault → String
  | .embeddedNul => "embedded null byte"
  | .unknownNaming name => "unknown condition naming scheme: " ++ name
  | .clashingFlags => "ASCII and UNICODE flags are incompatible"
  | .tooManyDigits digits =>
    "Exceeds the limit (4300 digits) for integer string conversion: value has " ++
      toString digits ++ " digits; use sys.set_int_max_str_digits() to increase the limit"
  | .unshowable =>
    "Exceeds the limit (4300 digits) for integer string conversion; " ++
      "use sys.set_int_max_str_digits() to increase the limit"
  | .notInteger base text =>
    "invalid literal for int() with base " ++ toString base ++ ": " ++ Text.quoted text
  | .notNumber text => "could not convert string to float: " ++ Text.quoted text
  | .codeOutOfRange => "chr() arg not in range(0x110000)"
  | .calendar misfit => misfit.message

/-- Numbers that are too large. -/
inductive OverflowFault where
  | repetition
  | code
  deriving DecidableEq, Repr

def OverflowFault.message : OverflowFault → String
  | .repetition => "the repetition number is too large"
  | .code => "Python int too large to convert to C int"

/-- Values of kinds that an operation cannot take. -/
inductive KindFault where
  | unhashable (kind : String)
  | incomparable (left right : String)
  | dateAndMoment
  | zones
  deriving DecidableEq, Repr

def KindFault.message : KindFault → String
  | .unhashable kind => "unhashable type: '" ++ kind ++ "'"
  | .incomparable left right =>
    "'<' not supported between instances of '" ++ left ++ "' and '" ++ right ++ "'"
  | .dateAndMoment => "can't compare datetime.datetime to datetime.date"
  | .zones => "can't compare offset-naive and offset-aware datetimes"

/-- Everything that can go wrong. -/
inductive Fault where
  | line (fault : LineFault)
  | usage (fault : UsageFault)
  | parse (fault : Script.SyntaxFault)
  | context (fault : ContextFault)
  | unopened (path reason : String)
  | unread (name : String) (cause : Fault)
  | condition (fault : ConditionFault)
  | raised (guard : Script.Guard) (cause : Fault)
  | command (failure : Failure) (output : Output)
  | execution (name : String) (lineno : Nat) (text : String) (cause : Fault)
  | stop (message : String)
  | settings (fault : SettingsFault)
  | system (fault : SystemFault)
  | value (fault : ValueFault)
  | kind (fault : KindFault)
  | decoding (defect : Text.Utf8.Defect)
  | noHome
  | overflow (fault : OverflowFault)

namespace Fault

def message : Fault → String
  | .line fault => fault.message
  | .usage fault => fault.message
  | .parse fault => fault.message
  | .context fault => fault.message
  | .unopened path reason => "open " ++ path ++ ": " ++ reason
  | .unread name cause => "read " ++ name ++ ": " ++ cause.message
  | .condition fault => fault.message
  | .raised guard cause => guard.print ++ ": " ++ cause.message
  | .command failure _ => failure.message
  | .execution name lineno text cause =>
    name ++ ":" ++ toString lineno ++ ": " ++ text ++ ": " ++ cause.message
  | .stop message => message
  | .settings fault => fault.message
  | .system fault => fault.message
  | .value fault => fault.message
  | .kind fault => fault.message
  | .decoding defect => defect.message
  | .noHome => "Could not determine home directory."
  | .overflow fault => fault.message

/-- The faults of scripts: those that a run reports as its failure. -/
def isScript : Fault → Bool
  | .line _ | .usage _ | .parse _ | .context _ | .unopened _ _ | .unread _ _ | .condition _
  | .raised _ _ | .command _ _ | .execution _ _ _ _ => true
  | _ => false

/-- The faults that name the line of a script. -/
def isExecution : Fault → Bool
  | .execution _ _ _ _ => true
  | _ => false

/-- A failure of a command that wrote nothing. -/
def failure (failure : Failure) : Fault := .command failure .empty

/-- A refusal that concerns paths. -/
def refused (refusal : Files.Refusal) (paths : List String) : Fault :=
  .system (.ofRefusal refusal paths)

/-- A refusal by the system counts as a failure of the command that met it. -/
def asFailure : Fault → Fault
  | .system fault => .failure (.system fault)
  | fault => fault

end Fault

end LineScript
