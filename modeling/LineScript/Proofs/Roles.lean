import LineScript.Proofs.Words
import LineScript.Script.Line

/-!
# What values can do to the structure of a line
Guards, the prefix and the background mark are looked for in words that are expanded already. So a
value can change the structure of a line, but only through the roles of few words: those up to the
first that is no guard, and the last one (`Line.form_parse_expand`). Words that are quoted in part
have no role, and words without a dollar sign have the same one under every environment.
-/
namespace LineScript.Script

/-! ## Roles of words -/

/-- What a word is taken for where its place allows it. -/
inductive Role where
  | guard
  | brokenGuard
  | failure
  | any
  | background
  | plain
  deriving DecidableEq, Repr

def Word.role (word : Word) : Role :=
  if word.opensGuard then
    match word.guard with
    | .ok _ => .guard
    | .error _ => .brokenGuard
  else if word.isMark "!" then .failure
  else if word.isMark "?" then .any
  else if word.isMark "&" then .background
  else .plain

theorem Word.eq_of_isMark {word : Word} {mark : String} (marked : word.isMark mark = true) :
    word = ⟨mark, false⟩ := by
  obtain ⟨text, quoted⟩ := word
  simp only [isMark, Bool.and_eq_true, Bool.not_eq_true', beq_iff_eq] at marked
  rw [marked.1, marked.2]

/-- The mark that a role is for, if it is for one. -/
def Role.mark? : Role → Option String
  | .failure => some "!"
  | .any => some "?"
  | .background => some "&"
  | _ => none

theorem Word.role_eq_iff (word : Word) (role : Role) {mark : String}
    (known : role.mark? = some mark) :
    word.role = role ↔ word.isMark mark = true := by
  constructor
  · intro same
    subst same
    unfold role at known
    split at known
    · split at known <;> cases known
    split at known
    · cases known
      assumption
    split at known
    · cases known
      assumption
    split at known
    · cases known
      assumption
    · cases known
  · intro marked
    rw [eq_of_isMark marked]
    cases role <;> cases known <;> rfl

theorem Word.role_of_quoted {word : Word} (quoted : word.quoted = true) : word.role = .plain := by
  simp [role, opensGuard, isMark, quoted]

/-! ## The shape of a line -/

/-- What a line comes to, less the texts of its words. -/
structure Shape where
  want : Expect
  background : Bool
  guards : Nat
  args : Nat
  deriving DecidableEq, Repr

def Line.shape (line : Line) : Shape :=
  ⟨line.want, line.background, line.guards.length, line.args.length⟩

/-- The roles that decide what the front of a line is: those of its guards, and that of the first
word behind them. The background mark is none there. -/
def leading : List Role → List Role
  | [] => []
  | .guard :: rest => .guard :: leading rest
  | .background :: _ => [.plain]
  | role :: _ => [role]

/-- The line ends in the background mark. -/
def endsMarked (roles : List Role) : Bool := roles.getLast? == some .background

namespace Shape

/-- The shape of a line with so many guards and so many words behind its prefix, of which the last
may be the background mark. One of them has to be the command. -/
def ofCommand (background : Bool) (words guards : Nat) (want : Expect) : Option Shape :=
  match words - background.toNat with
  | 0 => none
  | args + 1 => some ⟨want, background, guards, args⟩

/-- The shape of a line by the roles that decide on its front, once so many guards are read and so
many words are left. -/
def ofLeading (background : Bool) (words guards : Nat) : List Role → Option Shape
  | [] => none
  | .guard :: rest => ofLeading background (words - 1) (guards + 1) rest
  | .brokenGuard :: _ => none
  | .failure :: _ => ofCommand background (words - 1) guards .failure
  | .any :: _ => ofCommand background (words - 1) guards .any
  | _ :: _ => ofCommand background words guards .success

/-- The shape of a line by the roles of its words. -/
def ofRoles (roles : List Role) : Option Shape :=
  ofLeading (endsMarked roles) roles.length 0 (leading roles)

theorem ofLeading_guards (background : Bool) (words guards count : Nat) (roles : List Role) :
    ofLeading background (words + count) guards (List.replicate count .guard ++ roles) =
      ofLeading background words (guards + count) roles := by
  induction count generalizing guards with
  | zero => rfl
  | succ count ih =>
    rw [List.replicate_succ, List.cons_append, ofLeading, ← Nat.add_assoc, Nat.add_sub_cancel,
      ih, Nat.add_right_comm, Nat.add_assoc]

end Shape

theorem leading_guards (count : Nat) (roles : List Role) :
    leading (List.replicate count .guard ++ roles) =
      List.replicate count .guard ++ leading roles := by
  induction count with
  | zero => rfl
  | succ count ih => rw [List.replicate_succ, List.cons_append, leading, ih, List.cons_append]

/-! ## Taking a line off its words -/

/-- Guards are taken off up to the first word that is none, unless one of them is broken. -/
theorem takeGuards_roles (words : List Word) :
    (∃ guards rest, takeGuards words = .ok (guards, rest) ∧
      words.map Word.role = List.replicate guards.length .guard ++ rest.map Word.role ∧
      ∀ word ∈ rest.head?, word.opensGuard = false) ∨
    ∃ fault count roles, takeGuards words = .error fault ∧
      words.map Word.role = List.replicate count .guard ++ .brokenGuard :: roles := by
  induction words with
  | nil => exact .inl ⟨[], [], rfl, rfl, by simp⟩
  | cons word words ih =>
    cases opens : word.opensGuard with
    | false =>
      exact .inl ⟨[], word :: words, by simp [takeGuards, opens], rfl, by simpa using opens⟩
    | true =>
      cases inside : word.guard with
      | error fault =>
        refine .inr ⟨fault, 0, words.map Word.role, ?_, by simp [Word.role, opens, inside]⟩
        simp [takeGuards, opens, inside, bind, Except.bind]
      | ok guard =>
        have first : word.role = .guard := by simp [Word.role, opens, inside]
        obtain ⟨guards, rest, taken, roles, stops⟩ | ⟨fault, count, later, taken, roles⟩ := ih
        · refine .inl ⟨guard :: guards, rest, ?_, ?_, stops⟩
          · simp [takeGuards, opens, inside, taken, bind, Except.bind, pure, Except.pure]
          · simp [first, roles, List.replicate_succ]
        · refine .inr ⟨fault, count + 1, later, ?_, ?_⟩
          · simp [takeGuards, opens, inside, taken, bind, Except.bind]
          · simp [first, roles, List.replicate_succ]

/-- The background mark is taken off where the line ends in it. -/
theorem takeBackground_eq (words : List Word) :
    takeBackground words = (endsMarked (words.map Word.role),
      if endsMarked (words.map Word.role) then words.dropLast else words) := by
  cases last : words.getLast? with
  | none => simp [takeBackground, endsMarked, last]
  | some word =>
    have same : endsMarked (words.map Word.role) = word.isMark "&" := by
      rw [Bool.eq_iff_iff, ← word.role_eq_iff .background rfl]
      simp [endsMarked, last]
    cases marked : word.isMark "&" <;> simp [takeBackground, last, same, marked]

theorem endsMarked_append (front : List Role) {roles : List Role} (more : roles ≠ []) :
    endsMarked (front ++ roles) = endsMarked roles := by
  simp [endsMarked, List.getLast?_append, List.getLast?_eq_some_getLast more]

/-- What a line is whose guards and prefix are taken off. -/
def Line.ofCommand (raw : String) (guards : List Guard) (want : Expect) (words : List Word) :
    Except SyntaxFault Line :=
  match takeBackground words with
  | (_, []) => .error .missingCommand
  | (background, name :: args) =>
    .ok { raw, name := name.text, args := args.map (·.text), guards, want, background }

theorem shape_ofCommand (raw : String) (guards : List Guard) (want : Expect) (words : List Word) :
    (Line.ofCommand raw guards want words).toOption.map Line.shape =
      Shape.ofCommand (endsMarked (words.map Word.role)) words.length guards.length want := by
  rw [Line.ofCommand, takeBackground_eq]
  cases marked : endsMarked (words.map Word.role) with
  | false =>
    cases words with
    | nil => rfl
    | cons word words => simp [Shape.ofCommand, Except.toOption, Line.shape]
  | true =>
    cases dropped : words.dropLast with
    | nil =>
      have one : words.length - 1 = 0 := by simpa using congrArg List.length dropped
      simp [Shape.ofCommand, Except.toOption, one]
    | cons word rest =>
      have count : words.length - 1 = rest.length + 1 := by simpa using congrArg List.length dropped
      simp [Shape.ofCommand, Except.toOption, Line.shape, count]

/-- A word taken off the front matters to what is left only if nothing is left. -/
theorem Shape.ofCommand_behind (role : Role) (rest : List Role) (guards : Nat) (want : Expect) :
    ofCommand (endsMarked (role :: rest)) rest.length guards want =
      ofCommand (endsMarked rest) rest.length guards want := by
  cases rest with
  | nil => cases role <;> rfl
  | cons next rest => rw [← endsMarked_append [role] (List.cons_ne_nil next rest)]; rfl

theorem shape_afterGuards (raw : String) (guards : List Guard) {words : List Word}
    (stops : ∀ word ∈ words.head?, word.opensGuard = false) :
    (Line.ofCommand raw guards (takePrefix words).1 (takePrefix words).2).toOption.map Line.shape =
      Shape.ofLeading (endsMarked (words.map Word.role)) words.length guards.length
        (leading (words.map Word.role)) := by
  rw [shape_ofCommand]
  cases words with
  | nil => rfl
  | cons word words =>
    have closed : word.opensGuard = false := stops word rfl
    have behind := Shape.ofCommand_behind word.role (words.map Word.role) guards.length
    rw [List.length_map] at behind
    cases failure : word.isMark "!" with
    | true =>
      have role : word.role = .failure := (word.role_eq_iff .failure rfl).mpr failure
      simp [takePrefix, failure, role, leading, Shape.ofLeading, ← behind]
    | false =>
    cases any : word.isMark "?" with
    | true =>
      have role : word.role = .any := (word.role_eq_iff .any rfl).mpr any
      simp [takePrefix, failure, any, role, leading, Shape.ofLeading, ← behind]
    | false =>
    cases background : word.isMark "&" with
    | true =>
      have role : word.role = .background := (word.role_eq_iff .background rfl).mpr background
      simp [takePrefix, failure, any, role, leading, Shape.ofLeading]
    | false =>
      have role : word.role = .plain := by
        simp [Word.role, closed, failure, any, background]
      simp [takePrefix, failure, any, role, leading, Shape.ofLeading]

/-- The shape of a line is that of the roles of its words. -/
theorem shape_ofWords (raw : String) (words : List Word) :
    (Line.ofWords raw words).toOption.map Line.shape = Shape.ofRoles (words.map Word.role) := by
  obtain ⟨guards, rest, taken, roles, stops⟩ | ⟨fault, count, later, taken, roles⟩ :=
    takeGuards_roles words
  · have made : Line.ofWords raw words =
        Line.ofCommand raw guards (takePrefix rest).1 (takePrefix rest).2 := by
      rcases prefixed : takePrefix rest with ⟨want, behind⟩
      rcases marked : takeBackground behind with ⟨background, _ | ⟨name, args⟩⟩ <;>
        simp [Line.ofWords, Line.ofCommand, taken, prefixed, marked, bind, Except.bind, pure,
          Except.pure, throw, throwThe, MonadExceptOf.throw]
    rw [made, shape_afterGuards raw guards stops, Shape.ofRoles, roles, leading_guards,
      List.length_append, List.length_replicate, Nat.add_comm, Shape.ofLeading_guards,
      Nat.zero_add, List.length_map]
    cases rest with
    | nil => rfl
    | cons word rest => rw [endsMarked_append _ (by simp)]
  · have refused : Line.ofWords raw words = .error fault := by
      rw [Line.ofWords, taken]
      rfl
    rw [refused, Shape.ofRoles, roles, leading_guards, List.length_append, List.length_replicate,
      Nat.add_comm, Shape.ofLeading_guards]
    rfl

/-! ## The roles that decide -/

/-- What the roles of the words decide by: those at the front, and whether the line ends in the
background mark. -/
def deciding (roles : List Role) : List Role × Bool := (leading roles, endsMarked roles)

/-- The role of the first word behind the guards of a line that expects this outcome. -/
def Expect.role : Expect → Role
  | .success => .plain
  | .failure => .failure
  | .any => .any

theorem Shape.ofCommand_eq_some {background : Bool} {words guards : Nat} {want : Expect}
    {shape : Shape} (read : ofCommand background words guards want = some shape) :
    shape.want = want ∧ shape.background = background ∧ shape.guards = guards := by
  unfold ofCommand at read
  split at read
  · cases read
  · cases read
    exact ⟨rfl, rfl, rfl⟩

/-- The shape of a line tells the roles at its front. -/
theorem Shape.leading_of_ofLeading (background : Bool) {shape : Shape} (roles : List Role) :
    ∀ words guards, ofLeading background words guards (leading roles) = some shape →
      shape.background = background ∧ ∃ count, shape.guards = guards + count ∧
        leading roles = List.replicate count .guard ++ [shape.want.role] := by
  induction roles with
  | nil => intro words guards read; cases read
  | cons role roles ih =>
    intro words guards read
    cases role with
    | guard =>
      obtain ⟨marked, count, guarded, front⟩ := ih _ _ read
      refine ⟨marked, count + 1, by omega, ?_⟩
      rw [leading, front, List.replicate_succ, List.cons_append]
    | brokenGuard => cases read
    | failure | any | background | plain =>
      obtain ⟨want, marked, guarded⟩ := ofCommand_eq_some read
      exact ⟨marked, 0, guarded, by rw [want]; rfl⟩

/-- The shape of a line tells the roles that decided on it. -/
theorem Shape.deciding_of_ofRoles {roles : List Role} {shape : Shape}
    (read : ofRoles roles = some shape) :
    deciding roles =
      (List.replicate shape.guards .guard ++ [shape.want.role], shape.background) := by
  obtain ⟨marked, count, guarded, front⟩ := leading_of_ofLeading _ roles _ _ read
  rw [Nat.zero_add] at guarded
  rw [deciding, front, marked, guarded]

/-! ## Words whose role no value can change -/

/-- The word is quoted in part, or nothing in it is a reference. -/
def Fixed (segments : List Segment) : Prop :=
  segments.any Segment.isQuoted = true ∨ ∀ chars, .plain chars ∈ segments → '$' ∉ chars

theorem Fixed.role_eq {segments : List Segment} (fixed : Fixed segments) (env : Environment) :
    (Word.ofSegments env.expand segments).role = (Word.ofSegments id segments).role := by
  rcases fixed with quoted | plain
  · rw [Word.role_of_quoted quoted, Word.role_of_quoted quoted]
  · rw [Word.ofSegments_of_plain plain env]

/-- The words up to the first that is no guard as it stands. -/
def frontWords : List (List Segment) → List (List Segment)
  | [] => []
  | word :: rest =>
    if (Word.ofSegments id word).role = .guard then word :: frontWords rest else [word]

/-- Every word up to the first that is no guard is fixed, and so is the last one. -/
def Settled (words : List (List Segment)) : Prop :=
  (∀ word ∈ frontWords words, Fixed word) ∧ ∀ word ∈ words.getLast?, Fixed word

theorem leading_of_fixed (env : Environment) {words : List (List Segment)}
    (fixed : ∀ word ∈ frontWords words, Fixed word) :
    leading (words.map fun word => (Word.ofSegments env.expand word).role) =
      leading (words.map fun word => (Word.ofSegments id word).role) := by
  induction words with
  | nil => rfl
  | cons word words ih =>
    have same := (fixed word (by rw [frontWords]; split <;> simp)).role_eq env
    rw [List.map_cons, List.map_cons, same]
    cases role : (Word.ofSegments id word).role with
    | guard =>
      rw [frontWords, if_pos role] at fixed
      rw [leading, leading, ih fun other member => fixed other (by simp [member])]
    | brokenGuard | failure | any | background | plain => simp [leading]

/-- The roles of a settled line decide under an environment as they do when nothing is expanded. -/
theorem Settled.deciding_eq {words : List (List Segment)} (settled : Settled words)
    (env : Environment) :
    deciding (words.map fun word => (Word.ofSegments env.expand word).role) =
      deciding (words.map fun word => (Word.ofSegments id word).role) := by
  have last : endsMarked (words.map fun word => (Word.ofSegments env.expand word).role) =
      endsMarked (words.map fun word => (Word.ofSegments id word).role) := by
    rw [endsMarked, endsMarked, List.getLast?_map, List.getLast?_map]
    cases ends : words.getLast? with
    | none => rfl
    | some word => simp [(settled.2 word (by simp [ends])).role_eq env]
  rw [deciding, deciding, leading_of_fixed env settled.1, last]

/-! ## Lines -/

/-- What a text is read as, less the texts of the words and the kind of the fault. -/
inductive Form where
  | silent
  | refused
  | line (shape : Shape)
  deriving DecidableEq, Repr

def Form.ofRead : Except SyntaxFault (Option Line) → Form
  | .ok none => .silent
  | .ok (some found) => .line found.shape
  | .error _ => .refused

def roles (text : String) (expand : String → String) : List Role :=
  match splitWords (Text.strip text) expand with
  | .ok words => words.map Word.role
  | .error _ => []

/-- The roles are those of the words as they stand, each of them expanded. -/
theorem roles_of_rawWords {text : String} {words : List (List Segment)}
    (read : rawWords (Text.strip text) = .ok words) (expand : String → String) :
    roles text expand = words.map fun word => (Word.ofSegments expand word).role := by
  simp [roles, splitWords, read, Except.map]

/-- Which words are quoted in part is the same whatever they are expanded to. -/
theorem quoted_splitWords (line : String) (expand : String → String) :
    (splitWords line expand).map (List.map Word.quoted) =
      (rawWords line).map (List.map fun word => word.any Segment.isQuoted) := by
  rw [splitWords]
  cases rawWords line with
  | error fault => rfl
  | ok words => simp [Except.map, Word.ofSegments]

theorem length_roles (text : String) (expand other : String → String) :
    (roles text expand).length = (roles text other).length := by
  cases read : rawWords (Text.strip text) with
  | error fault => simp [roles, splitWords, read, Except.map]
  | ok words => simp [roles_of_rawWords read]

/-- A text that is neither blank nor a comment is read as its roles tell. -/
theorem ofRead_parse {text : String} (expand : String → String)
    (spoken : ((Text.strip text).isEmpty || isComment (Text.strip text)) = false) :
    Form.ofRead (Line.parse text expand) =
      ((Shape.ofRoles (roles text expand)).map Form.line).getD .refused := by
  simp only [Line.parse, spoken, roles]
  cases split : splitWords (Text.strip text) expand with
  | error fault => rfl
  | ok words =>
    have shape := shape_ofWords (Text.strip text) words
    cases made : Line.ofWords (Text.strip text) words with
    | error fault =>
      rw [made] at shape
      simp [← shape, made, bind, Except.bind, Functor.map, Except.map, Except.toOption,
        Form.ofRead]
    | ok line =>
      rw [made] at shape
      simp [← shape, made, bind, Except.bind, Functor.map, Except.map, Except.toOption,
        Form.ofRead]

/-- A text is read in the same form where the same roles decide. -/
theorem ofRead_parse_congr {text : String} {expand other : String → String}
    (same : deciding (roles text expand) = deciding (roles text other)) :
    Form.ofRead (Line.parse text expand) = Form.ofRead (Line.parse text other) := by
  cases silent : (Text.strip text).isEmpty || isComment (Text.strip text) with
  | true => simp only [Line.parse, silent, if_true]
  | false =>
    obtain ⟨front, marked⟩ := Prod.mk.inj same
    rw [ofRead_parse expand silent, ofRead_parse other silent, Shape.ofRoles, Shape.ofRoles, front,
      marked, length_roles text expand other]

/-- The roles that decided on a line are told by its shape. -/
theorem deciding_of_ofRead {text : String} {expand : String → String} {shape : Shape}
    (read : Form.ofRead (Line.parse text expand) = .line shape) :
    deciding (roles text expand) =
      (List.replicate shape.guards .guard ++ [shape.want.role], shape.background) := by
  cases silent : (Text.strip text).isEmpty || isComment (Text.strip text) with
  | true => simp [Line.parse, silent, Form.ofRead] at read
  | false =>
    rw [ofRead_parse expand silent] at read
    cases shaped : Shape.ofRoles (roles text expand) with
    | none => simp [shaped] at read
    | some found =>
      obtain rfl : found = shape := by simpa [shaped] using read
      exact Shape.deciding_of_ofRoles shaped

/-- Values change the structure of a line through the roles of few words only. Under any two
environments a text has the same words with the same quoting. It is read in the same form if the
same roles decide; for lines that are read that is also necessary; and the same roles decide if the
deciding words are fixed. -/
theorem Line.form_parse_expand (text : String) (env other : Environment) :
    (splitWords (Text.strip text) env.expand).map (List.map Word.quoted) =
        (splitWords (Text.strip text) other.expand).map (List.map Word.quoted) ∧
      (deciding (roles text env.expand) = deciding (roles text other.expand) →
        Form.ofRead (parse text env.expand) = Form.ofRead (parse text other.expand)) ∧
      (∀ shape, Form.ofRead (parse text env.expand) = .line shape →
        Form.ofRead (parse text other.expand) = .line shape →
          deciding (roles text env.expand) = deciding (roles text other.expand)) ∧
      ∀ words, rawWords (Text.strip text) = .ok words → Settled words →
        Form.ofRead (parse text env.expand) = Form.ofRead (parse text other.expand) := by
  refine ⟨?_, ofRead_parse_congr, ?_, ?_⟩
  · rw [quoted_splitWords, quoted_splitWords]
  · intro shape first second
    rw [deciding_of_ofRead first, deciding_of_ofRead second]
  · intro words read settled
    refine ofRead_parse_congr ?_
    rw [roles_of_rawWords read, roles_of_rawWords read, settled.deciding_eq env,
      settled.deciding_eq other]

/-- A guard and a command that are quoted in part are read alike whatever `X` and `Y` are. -/
theorem Line.form_parse_expand_fixed :
    Form.ofRead (parse "'!'$X $Y b" (Environment.expand Table.empty)) =
      Form.ofRead (parse "'!'$X $Y b" (Environment.expand (Table.empty.insert "X" "&"))) := by
  refine (form_parse_expand "'!'$X $Y b" Table.empty (Table.empty.insert "X" "&")).2.2.2
    [[.quoted ['!'], .plain ['$', 'X']], [.plain ['$', 'Y']], [.plain ['b']]] rfl ⟨?_, ?_⟩
  · simp [frontWords, Word.ofSegments, Word.role, Segment.isQuoted, Word.opensGuard, Word.isMark,
      Fixed]
  · simp [Fixed]

/-- Whether the first word is the prefix depends on the value that it refers to. -/
theorem Line.form_parse_not_fixed :
    ¬ ∀ (text : String) (env other : Environment),
      Form.ofRead (parse text env.expand) = Form.ofRead (parse text other.expand) := by
  intro alike
  have empty : Environment.expand Table.empty "$X" = "" := by
    simp [Environment.expand, replaceReferences, reference?, isNameChar, Environment.referent,
      Environment.value, Table.find?, Table.empty]
  have bang : Environment.expand (Table.empty.insert "X" "!") "$X" = "!" := by
    simp [Environment.expand, replaceReferences, reference?, isNameChar, Environment.referent,
      Environment.value, Table.find?, Table.insert, Table.insertEntry, Table.empty]
  have same := alike "$X a b" Table.empty (Table.empty.insert "X" "!")
  rw [ofRead_parse _ (by decide), ofRead_parse _ (by decide)] at same
  have raw : rawWords (Text.strip "$X a b") =
    .ok [[.plain ['$', 'X']], [.plain ['a']], [.plain ['b']]] := rfl
  rw [roles_of_rawWords raw, roles_of_rawWords raw] at same
  have a (env : Environment) : env.expand "a" = "a" := env.expand_of_plain (by decide)
  have b (env : Environment) : env.expand "b" = "b" := env.expand_of_plain (by decide)
  simp [Word.ofSegments, Segment.text, empty, bang, a, b] at same
  revert same
  decide

end LineScript.Script
