import LineScript.Pattern.FlagReading
import LineScript.Pattern.SetReading

/-!
# Reading trees
A pattern is a choice between sequences of items: characters, sets, anchors, groups, and
repetitions of the item before. Where the reading is nested, an amount of fuel that the length of
the pattern bounds goes down at every step.
-/
namespace LineScript.Pattern

/-- White space that verbose patterns skip. -/
def isPatternBlank (token : Token) : Bool :=
  match token with
  | [c] => c == ' ' || (0x09 ≤ c.toNat && c.toNat ≤ 0x0d)
  | _ => false

def skipLine : Nat → Reader Unit
  | 0 => return
  | fuel + 1 => do
    match ← take with
    | none => return
    | some ['\n'] => return
    | some _ => skipLine fuel

/-- Skips a comment in parentheses that began at `start`. -/
def skipComment (start : Nat) : Nat → Reader Unit
  | 0 => failAt .unterminatedComment start
  | fuel + 1 => do
    match ← peek with
    | none => failAt .unterminatedComment start
    | some token =>
      advance
      if token = [')'] then return else skipComment start fuel

def Escape.node (escape : Escape) (flags : Flags) : Reader Node := do
  let ascii := flags.contains .ascii
  match escape with
  | .code value => return .char (.only false flags.fold value)
  | .class kind negated => return .char ⟨false, [.class kind negated ascii], flags.fold⟩
  | .textStart => return .anchor .textStart
  | .textEnd => return .anchor .textEnd
  | .wordEdge negated => return .anchor (.wordEdge negated ascii)
  | .reference group =>
    return .reference group flags.fold (((← get).closedWidth? group).getD .zero)

/-- One more than the greatest number of repetitions. -/
def maxRepeat : Nat := 0xffffffff

/-- The number of repetitions that digits write, if there are any. -/
def readCount? (digits : List Char) : Reader (Option Nat) := do
  if digits.isEmpty then return none
  else if Numeral.maxDigits < digits.length then throw (.tooManyDigits digits.length)
  else
    let count := numberIn 10 digits
    if maxRepeat ≤ count then throw .repetitionTooLarge else return some count

/-- The bounds of a repetition in braces whose opening brace has been taken. What does not have
this form is no repetition, and nothing of it is taken. -/
def readBraces? : Reader (Option (Nat × Option Nat)) := do
  let saved ← get
  if saved.next = some ['}'] then return none
  else
    let low ← takeWhile Char.isDigit (saved.rest.length + 1)
    let high ← if ← accept ',' then takeWhile Char.isDigit (saved.rest.length + 1) else pure low
    if ← accept '}' then
      let min := (← readCount? low).getD 0
      let max ← readCount? high
      if max.any (· < min) then failAt .minAboveMax saved.position
      return some (min, max)
    else
      set saved
      return none

/-- The bounds of a repetition that begins with the given character; none where the character
stands for itself. -/
def readBounds? (c : Char) : Reader (Option (Nat × Option Nat)) := do
  if c = '?' then return some (0, some 1)
  else if c = '*' then return some (0, none)
  else if c = '+' then return some (1, none)
  else readBraces?

/-- How eager the repetition is whose bounds have been taken. -/
def readEagerness : Reader Eagerness := do
  if ← accept '?' then return .lazy
  else if ← accept '+' then return .possessive
  else return .greedy

/-- Repeats the last of the items so far; `start` is where the repetition is written. -/
def repeatLast (start : Nat) (bounds : Nat × Option Nat) (done : List Node) :
    Reader (List Node) := do
  match done with
  | [] => failAt .nothingToRepeat start
  | item :: rest =>
    if item.isAnchor then failAt .nothingToRepeat start
    else if item.isRepeated then failAt .multipleRepeat start
    else return .repeated (← readEagerness) bounds.1 bounds.2 item :: rest

/-- Opens a group, named or not, and gives its number. -/
def openGroup (name : Option String) : Reader Nat := do
  let r ← get
  let group := r.groups
  match name with
  | none => set { r with widths := r.widths ++ [none] }
  | some name =>
    match r.names.lookup name with
    | some old => failBack (.redefinedName name group old) (name.length + 1)
    | none => set { r with widths := r.widths ++ [none], names := (name, group) :: r.names }
  return group

def closeGroup (group : Nat) (inner : Node) : Reader Unit :=
  modify fun r => { r with widths := r.widths.set group (some inner.width) }

/-- Takes the parenthesis that ends a group begun at `start`. -/
def endGroup (start : Nat) : Reader Unit := do
  if ← accept ')' then return else failAt .unterminatedGroup start

/-- Within a look behind, only groups that were closed before it can be referred to. -/
def checkBehind (group : Nat) : Reader Unit := do
  let r ← get
  match r.behind with
  | none => return
  | some groups =>
    if (r.closedWidth? group).isNone then failBack .openGroup 0
    if groups ≤ group then failBack .sameLookbehind 0

/-- A name of a group up to its terminator. -/
def readGroupName (terminator : Char) : Reader String := do
  let name ← takeName terminator "group name"
  if Text.isIdentifier name.toList then return name
  else failBack (.badName name) (name.length + 1)

/-- A reference by name, up to the closing parenthesis. -/
def readNamedReference (flags : Flags) : Reader Node := do
  let name ← readGroupName ')'
  let r ← get
  match r.names.lookup name with
  | none => failBack (.unknownName name) (name.length + 1)
  | some group =>
    match r.closedWidth? group with
    | none => failBack .openGroup (name.length + 1)
    | some width =>
      checkBehind group
      return .reference group flags.fold width

/-- One more than the greatest number of a group. -/
def maxGroups : Nat := 0x7fffffff

/-- The group that a condition names by a number; it may be opened later. -/
def conditionNumber (name : String) : Reader Nat := do
  match Numeral.readInteger? name with
  | none => failBack (.badName name) (name.length + 1)
  | some number =>
    if number < 0 then failBack (.badName name) (name.length + 1)
    else if number = 0 then failBack .badGroupNumber (name.length + 1)
    else if maxGroups ≤ number.toNat then
      failBack (.invalidReference number.toNat) (name.length + 1)
    else
      let group := number.toNat
      let r ← get
      if (r.conditions.lookup group).isNone then
        set { r with conditions := r.conditions ++ [(group, r.position - name.length - 1)] }
      return group

/-- The group that a condition refers to, up to the parenthesis after it. -/
def readCondition : Reader Nat := do
  let name ← takeName ')' "group name"
  let group ←
    if Text.isIdentifier name.toList then
      match (← get).names.lookup name with
      | none => failBack (.unknownName name) (name.length + 1)
      | some group => pure group
    else conditionNumber name
  checkBehind group
  return group

/-- What a parenthesis leads to: a node, nothing, or flags for the rest of the pattern. -/
inductive Parenthesis where
  | node (node : Node)
  | nothing
  | flags (flags : Flags)

mutual

/-- A choice between sequences; the first of the whole pattern may begin with flags. -/
def readChoice (whole first : Bool) (flags : Flags) : Nat → Reader Node
  | 0 => failBack .endOfPattern 0
  | fuel + 1 => do
    let (node, flags) ← readSequence (whole && first) flags [] fuel
    if ← accept '|' then return .alt node (← readChoice whole false flags fuel) else return node
termination_by structural fuel => fuel

/-- A sequence of items, those so far with the last first, and the flags that hold after it. -/
def readSequence (mayFlag : Bool) (flags : Flags) (done : List Node) :
    Nat → Reader (Node × Flags)
  | 0 => failBack .endOfPattern 0
  | fuel + 1 => do
    match ← peek with
    | none => return (.ofList done.reverse, flags)
    | some token =>
      if token = ['|'] ∨ token = [')'] then return (.ofList done.reverse, flags)
      else
        advance
        if flags.contains .verbose && isPatternBlank token then
          readSequence mayFlag flags done fuel
        else if flags.contains .verbose && token = ['#'] then
          skipLine fuel
          readSequence mayFlag flags done fuel
        else match token with
          | [c] =>
            if c = '(' then
              match ← readParenthesis (mayFlag && done.isEmpty) flags fuel with
              | .node node => readSequence mayFlag flags (node :: done) fuel
              | .nothing => readSequence mayFlag flags done fuel
              | .flags flags => readSequence mayFlag flags done fuel
            else if c = '[' then
              readSequence mayFlag flags ((← readSet flags) :: done) fuel
            else if c = '*' ∨ c = '+' ∨ c = '?' ∨ c = '{' then
              let start := (← get).position - 1
              match ← readBounds? c with
              | some bounds =>
                readSequence mayFlag flags (← repeatLast start bounds done) fuel
              | none =>
                readSequence mayFlag flags (.char (.only false flags.fold c.toNat) :: done) fuel
            else
              let node : Node :=
                if c = '.' then .char (.anything (flags.contains .dotAll))
                else if c = '^' then
                  .anchor (if flags.contains .multiline then .lineStart else .textStart)
                else if c = '$' then
                  .anchor (if flags.contains .multiline then .lineEnd else .lastLineEnd)
                else .char (.only false flags.fold c.toNat)
              readSequence mayFlag flags (node :: done) fuel
          | _ :: c :: _ =>
            readSequence mayFlag flags ((← (← readEscape c).node flags) :: done) fuel
          | [] => readSequence mayFlag flags done fuel
termination_by structural fuel => fuel

def readParenthesis (mayFlag : Bool) (flags : Flags) : Nat → Reader Parenthesis
  | 0 => failBack .endOfPattern 0
  | fuel + 1 => do
    let start := (← get).position - 1
    if ← accept '?' then
      match ← take with
      | none => failBack .endOfPattern 0
      | some ['P'] => readNamed start flags fuel
      | some [':'] => return .node (.group none (← readInner start flags fuel))
      | some ['>'] => return .node (.atomic (← readInner start flags fuel))
      | some ['='] => return .node (.ahead false (← readInner start flags fuel))
      | some ['!'] => return .node (.ahead true (← readInner start flags fuel))
      | some ['<'] => readBehind start flags fuel
      | some ['('] => readConditional start flags fuel
      | some ['#'] =>
        skipComment start fuel
        return .nothing
      | some token =>
        if token ≠ ['-'] ∧ (tokenFlag? token).isNone then
          failBack (.unknownExtension (String.ofList token)) (token.length + 1)
        else match ← readFlags (tokenFlag? token) with
          | .whole on =>
            modify fun r => { r with flags := r.flags ++ on }
            if mayFlag then return .flags (← get).flags else failAt .lateFlags start
          | .here on off =>
            return .node (.group none (← readInner start (flags.change on off) fuel))
    else readCapture start none flags fuel
termination_by structural fuel => fuel

/-- What stands in a group, up to the parenthesis that ends it. -/
def readInner (start : Nat) (flags : Flags) : Nat → Reader Node
  | 0 => failBack .endOfPattern 0
  | fuel + 1 => do
    let inner ← readChoice false false flags fuel
    endGroup start
    return inner
termination_by structural fuel => fuel

/-- A group that captures what it matches. -/
def readCapture (start : Nat) (name : Option String) (flags : Flags) : Nat → Reader Parenthesis
  | 0 => failBack .endOfPattern 0
  | fuel + 1 => do
    let group ← openGroup name
    let inner ← readInner start flags fuel
    closeGroup group inner
    return .node (.group (some group) inner)
termination_by structural fuel => fuel

/-- A group with a name, or a reference to one. -/
def readNamed (start : Nat) (flags : Flags) : Nat → Reader Parenthesis
  | 0 => failBack .endOfPattern 0
  | fuel + 1 => do
    if ← accept '<' then readCapture start (some (← readGroupName '>')) flags fuel
    else if ← accept '=' then return .node (← readNamedReference flags)
    else match ← take with
      | none => failBack .endOfPattern 0
      | some token =>
        failBack (.unknownExtension ("P" ++ String.ofList token)) (token.length + 2)
termination_by structural fuel => fuel

/-- A condition on what stands before. -/
def readBehind (start : Nat) (flags : Flags) : Nat → Reader Parenthesis
  | 0 => failBack .endOfPattern 0
  | fuel + 1 => do
    match ← take with
    | none => failBack .endOfPattern 0
    | some token =>
      if token ≠ ['='] ∧ token ≠ ['!'] then
        failBack (.unknownExtension ("<" ++ String.ofList token)) (token.length + 2)
      let outer := (← get).behind
      modify fun r => { r with behind := some (outer.getD r.groups) }
      let inner ← readChoice false false flags fuel
      modify fun r => { r with behind := outer }
      endGroup start
      return .node (.behind (token = ['!']) inner)
termination_by structural fuel => fuel

/-- A choice by whether a group has captured something. -/
def readConditional (start : Nat) (flags : Flags) : Nat → Reader Parenthesis
  | 0 => failBack .endOfPattern 0
  | fuel + 1 => do
    let group ← readCondition
    let (yes, _) ← readSequence false flags [] fuel
    let no ←
      if ← accept '|' then
        let (no, _) ← readSequence false flags [] fuel
        if (← peek) = some ['|'] then failBack .tooManyBranches 0
        pure no
      else pure .empty
    endGroup start
    return .node (.conditional group yes no)
termination_by structural fuel => fuel

end

/-- The tree of a whole pattern, with its flags. -/
def readWhole (fuel : Nat) : Reader Node := do
  advance
  let node ← readChoice true true .initial fuel
  let r ← get
  if r.flags.contains .ascii && r.flags.contains .unicode then throw .clashingFlags
  if r.next.isSome then failBack .unbalancedParenthesis 0
  match r.conditions.find? (r.groups ≤ ·.1) with
  | some (group, position) => failAt (.invalidReference group) position
  | none => pure ()
  match node.flaw? (r.flags.contains .template) with
  | some flaw => throw (.defect ⟨r.pattern, flaw, none⟩)
  | none => return node

/-- The reading of a pattern of which nothing has been read. -/
def Reading.start (character : String → Option Nat) (pattern : List Char) : Reading :=
  ⟨pattern, none, pattern, .initial, [none], [], none, [], character⟩

/-- The tree of a pattern and the number of its groups, the whole pattern included. -/
def readTree (character : String → Option Nat) (pattern : List Char) :
    Except Problem (Node × Nat) := do
  let (node, r) ← (readWhole (8 * pattern.length + 8)).run (.start character pattern)
  return (node, r.groups)

end LineScript.Pattern
