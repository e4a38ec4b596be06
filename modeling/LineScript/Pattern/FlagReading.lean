import LineScript.Pattern.Reading
import LineScript.Text.Identifier

/-!
# Reading flags
Flags stand after a question mark at the start of a group. Closed by a parenthesis they hold for
the whole pattern; closed by a colon they hold for the group, and a minus turns off those after
it.
-/
namespace LineScript.Pattern

/-- What written flags ask for. -/
inductive FlagChange where
  | whole (on : Flags)
  | here (on off : Flags)

def isLetterToken (token : Token) : Bool :=
  match token with
  | [c] => Text.isIdentifier [c] && c != '_'
  | _ => false

def tokenFlag? (token : Token) : Option Flag :=
  match token with
  | [c] => Flag.ofChar? c
  | _ => none

/-- The flags to turn on, beginning with one that has been taken, and the mark that ends them. -/
def readFlagsOn (flag : Flag) (on : Flags) : Nat → Reader (Flags × Token)
  | 0 => failBack .missingFlagsEnd 0
  | fuel + 1 => do
    if flag = .locale then failBack .localeFlag 0
    let on := on ++ [flag]
    if flag.isKind && on.any (fun other => other.isKind && other != flag) then
      failBack .incompatibleFlags 0
    match ← take with
    | none => failBack .missingFlagsEnd 0
    | some token =>
      if token = [')'] ∨ token = ['-'] ∨ token = [':'] then return (on, token)
      else match tokenFlag? token with
        | some next => readFlagsOn next on fuel
        | none =>
          failBack (if isLetterToken token then .unknownFlag else .missingFlagsEnd) token.length

/-- The flags to turn off, beginning with one that has been taken, up to the colon. -/
def readFlagsOff (flag : Flag) (off : Flags) : Nat → Reader Flags
  | 0 => failBack .missingColon 0
  | fuel + 1 => do
    if flag.isKind then failBack .turnedOffKind 0
    let off := off ++ [flag]
    match ← take with
    | none => failBack .missingColon 0
    | some [':'] => return off
    | some token => match tokenFlag? token with
      | some next => readFlagsOff next off fuel
      | none => failBack (if isLetterToken token then .unknownFlag else .missingColon) token.length

def readMinus : Reader Flags := do
  match ← take with
  | none => failBack .missingFlag 0
  | some token => match tokenFlag? token with
    | none => failBack (if isLetterToken token then .unknownFlag else .missingFlag) token.length
    | some flag => readFlagsOff flag [] ((← get).rest.length + 2)

/-- The flags of a group, beginning with a flag or, if there is none, after a minus. -/
def readFlags (first : Option Flag) : Reader FlagChange := do
  let (on, mark) ← match first with
    | some flag => readFlagsOn flag [] ((← get).rest.length + 2)
    | none => pure ([], ['-'])
  if mark = [')'] then return .whole on
  else
    if on.any Flag.isGlobal then failBack .turnedOnGlobal 1
    let off ← if mark = ['-'] then readMinus else pure []
    if off.any Flag.isGlobal then failBack .turnedOffGlobal 1
    if on.any off.contains then failBack .turnedOnAndOff 1
    return .here on off

end LineScript.Pattern
