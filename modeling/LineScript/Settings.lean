import LineScript.Fault
import LineScript.Text.Blank
import LineScript.Value

/-!
# Settings
The settings of runs, and how they are read from the values that are given for them. A setting
without a value has its default; a value that does not fit is refused, the settings being looked at
in a fixed order.
-/
namespace LineScript

/-- The settings of runs. -/
structure Settings where
  log : Bool
  stdout : Bool
  stderr : Bool
  /-- The naming of the conditions on files and variables. -/
  naming : String
  /-- Where scripts start. -/
  workdir : String
  deriving DecidableEq, Repr

namespace Settings

/-- The settings of those who set nothing. -/
def default : Settings := ⟨false, false, false, "short", "."⟩

def names : List String := ["log", "stdout", "stderr", "condition_names", "workdir"]

/-- The namings of conditions that can be asked for. -/
def namings : List String := ["descriptive", "short"]

/-- The naming can be asked for, and the working directory is more than blanks. -/
def IsValid (settings : Settings) : Prop :=
  settings.naming ∈ namings ∧ Text.isBlankText settings.workdir = false

instance (settings : Settings) : Decidable settings.IsValid :=
  inferInstanceAs (Decidable (_ ∧ _))

/-- The refusal of a value, for a reason that shows it if it can be shown. -/
def refusal (value : Value) (reason : String → SettingsFault) : Fault :=
  if value.isShowable then .settings (reason value.shown) else .value .unshowable

def readSwitch (name : String) : Option Value → Except Fault Bool
  | none => .ok false
  | some (.scalar (.bool value)) => .ok value
  | some value => .error (refusal value (.notBoolean name))

/-- The naming that a value asks for. It is looked up, so it has to be of a kind that can be. -/
def readNaming : Option Value → Except Fault String
  | none => .ok default.naming
  | some value => match value.unhashable? with
    | some kind => .error (.kind (.unhashable kind))
    | none => match value with
      | .scalar (.text name) =>
        if name ∈ namings then .ok name else .error (refusal value .unknownNaming)
      | _ => .error (refusal value .unknownNaming)

def readWorkdir : Option Value → Except Fault String
  | none => .ok default.workdir
  | some (.scalar (.text path)) =>
    if Text.isBlankText path then .error (.settings .emptyWorkdir) else .ok path
  | some _ => .error (.settings .emptyWorkdir)

/-- The settings that values ask for, given by the names of the settings. -/
def read (value? : String → Option Value) : Except Fault Settings := do
  let log ← readSwitch "log" (value? "log")
  let stdout ← readSwitch "stdout" (value? "stdout")
  let stderr ← readSwitch "stderr" (value? "stderr")
  let naming ← readNaming (value? "condition_names")
  let workdir ← readWorkdir (value? "workdir")
  return ⟨log, stdout, stderr, naming, workdir⟩

def isKnown : Scalar → Bool
  | .text name => names.contains name
  | _ => false

/-- Keys in order; keys that cannot be compared have none. -/
def sortKeys (keys : List Scalar) : Except Fault (List Scalar) :=
  match keys with
  | [] => .ok []
  | first :: rest => match rest.find? fun key => (first.isBefore? key).isNone with
    | some key => .error (.kind (key.mismatch first))
    | none => .ok (keys.mergeSort fun a b => b.isBefore? a != some true)

/-- The settings that the map in a file asks for. Keys that name no setting are refused first. -/
def ofEntries (path : String) (entries : List (Scalar × Value)) : Except Fault Settings := do
  let unknown ← sortKeys ((entries.map (·.1)).filter (!isKnown ·))
  if unknown.isEmpty then read fun name => entries.lookup (.text name)
  else if unknown.all Scalar.isShowable then
    throw (.settings (.unknownKeys path (unknown.map Scalar.words)))
  else throw (.value .unshowable)

end Settings

end LineScript
