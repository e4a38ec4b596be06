import LineScript.Pattern.Escape

/-!
# Reading sets of characters
A set stands between brackets: characters, escapes and ranges, negated by a caret in front. A
closing bracket that comes first is a member.
-/
namespace LineScript.Pattern

/-- An end of a range, or a member that can be none: what it is and the token that began it. -/
structure SetEntry where
  meaning : Escape
  token : Token

def readEntry (token : Token) : Reader SetEntry := do
  match token with
  | '\\' :: c :: _ => return ⟨← readSetEscape c, token⟩
  | c :: _ => return ⟨.code c.toNat, token⟩
  | [] => return ⟨.code 0, token⟩

/-- The member that an entry is alone. -/
def SetEntry.member (entry : SetEntry) (flags : Flags) : Member :=
  match entry.meaning with
  | .code value => .code value
  | .class kind negated => .class kind negated (flags.contains .ascii)
  | _ => .code 0

/-- The range between two entries, if both are single characters in order. -/
def rangeOf? (first last : SetEntry) : Option Member :=
  match first.meaning, last.meaning with
  | .code low, .code high => if low ≤ high then some (.range low high) else none
  | _, _ => none

/-- Adds a member unless it is there. -/
def addMember (members : List Member) (member : Member) : List Member :=
  if members.contains member then members else members ++ [member]

/-- The members up to the closing bracket, of a set that began at `start`. -/
def readMembers (flags : Flags) (start : Nat) (members : List Member) :
    Nat → Reader (List Member)
  | 0 => failAt .unterminatedSet start
  | fuel + 1 => do
    match ← take with
    | none => failAt .unterminatedSet start
    | some token =>
      if token = [']'] ∧ members ≠ [] then return members
      else
        let entry ← readEntry token
        if ← accept '-' then
          match ← take with
          | none => failAt .unterminatedSet start
          | some [']'] => return addMember (addMember members (entry.member flags)) (.code 0x2d)
          | some other =>
            let last ← readEntry other
            match rangeOf? entry last with
            | some member => readMembers flags start (addMember members member) fuel
            | none =>
              failBack (.badRange (String.ofList token) (String.ofList other))
                (token.length + 1 + other.length)
        else readMembers flags start (addMember members (entry.member flags)) fuel

/-- A set whose opening bracket has been taken. A set of one character is that character. -/
def readSet (flags : Flags) : Reader Node := do
  let start := (← get).position - 1
  let negated ← accept '^'
  let members ← readMembers flags start [] ((← get).rest.length + 2)
  match members with
  | [.code value] => return .char (.only negated flags.fold value)
  | _ => return .char ⟨negated, members, flags.fold⟩

end LineScript.Pattern
