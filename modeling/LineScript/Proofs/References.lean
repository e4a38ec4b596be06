import Mathlib.Data.List.DropRight
import Mathlib.Data.List.Infix
import Mathlib.Data.List.TakeWhile
import LineScript.Environment
import LineScript.Proofs.Blanks

/-!
# References in a text
A text is read once, from the left, as characters that are kept and as references (`Scanned`), in
one way and whatever the environment is. Its expansion is what these pieces come to one after the
other (`expand_pieces`), so what a name stands for is never read again, and a text can be expanded
in parts if no reference reaches over the cut.
-/
namespace LineScript

/-! ## Pieces -/

/-- A piece of a text: a character that is kept, or a reference to a name in braces or without. -/
inductive Piece where
  | kept (c : Char)
  | braced (name : List Char)
  | bare (name : List Char)
  deriving DecidableEq, Repr

/-- The name that the piece refers to, if it is a reference. -/
def Piece.name? : Piece → Option String
  | .kept _ => none
  | .braced name => some (String.ofList name)
  | .bare name => some (String.ofList name)

/-- What a name comes to: the slash and the colon to themselves, all others to their value. -/
def nameText (env : Environment) : String → String
  | "/" => "/"
  | ":" => ":"
  | name => (env.find? name).getD ""

/-- What a piece comes to. -/
def Piece.text (env : Environment) (piece : Piece) : String :=
  match piece with
  | .kept c => String.singleton c
  | .braced name => nameText env (String.ofList name)
  | .bare name => nameText env (String.ofList name)

/-- A dollar sign before the text begins no reference: no name follows, nor one in closed braces. -/
structure Unnamed (rest : List Char) : Prop where
  bare : ∀ c ∈ rest.head?, isNameChar c = false
  unclosed : ∀ more, rest = '{' :: more → '}' ∉ more

/-- The pieces that a text is read as from the left. A name in braces ends where the first brace
closes, and a bare name is as long as it can be. -/
inductive Scanned : List Char → List Piece → Prop
  | nil : Scanned [] []
  | kept {c : Char} {rest : List Char} {pieces : List Piece} :
      (c = '$' → Unnamed rest) → Scanned rest pieces → Scanned (c :: rest) (.kept c :: pieces)
  | braced {name rest : List Char} {pieces : List Piece} :
      '}' ∉ name → Scanned rest pieces →
        Scanned ('$' :: '{' :: (name ++ '}' :: rest)) (.braced name :: pieces)
  | bare {name rest : List Char} {pieces : List Piece} :
      name ≠ [] → (∀ c ∈ name, isNameChar c = true) → (∀ c ∈ rest.head?, isNameChar c = false) →
        Scanned rest pieces → Scanned ('$' :: (name ++ rest)) (.bare name :: pieces)

/-! ## Finding one reference -/

theorem reference?_braced {name : List Char} (open' : '}' ∉ name) (rest : List Char) :
    reference? ('{' :: (name ++ '}' :: rest)) = some (name, rest) := by
  have other : ∀ c ∈ name, (c != '}') = true := Text.bne_of_not_mem open'
  rw [reference?, if_pos rfl, List.dropWhile_append_of_pos other, List.takeWhile_append_of_pos other]
  simp

theorem head_bare {name : List Char} (filled : name ≠ [])
    (named : ∀ c ∈ name, isNameChar c = true) :
    ∃ c cs, name = c :: cs ∧ isNameChar c = true ∧ c ≠ '{' := by
  obtain ⟨c, cs, rfl⟩ := List.exists_cons_of_ne_nil filled
  have first : isNameChar c = true := named c (by simp)
  refine ⟨c, cs, rfl, first, ?_⟩
  rintro rfl
  exact absurd first (by decide)

theorem reference?_bare {name rest : List Char} (filled : name ≠ [])
    (named : ∀ c ∈ name, isNameChar c = true) (ends : ∀ c ∈ rest.head?, isNameChar c = false) :
    reference? (name ++ rest) = some (name, rest) := by
  obtain ⟨c, cs, rfl, first, plain⟩ := head_bare filled named
  have later : ∀ d ∈ cs, isNameChar d = true := fun d member => named d (List.mem_cons_of_mem _ member)
  rw [List.cons_append, reference?, if_neg plain, if_pos first, List.takeWhile_append_of_pos later,
    List.dropWhile_append_of_pos later, Text.takeWhile_of_head ends, Text.dropWhile_of_head ends,
    List.append_nil]

theorem Unnamed.reference? {rest : List Char} (unnamed : Unnamed rest) : reference? rest = none := by
  cases rest with
  | nil => rfl
  | cons c rest =>
    have plain : isNameChar c = false := unnamed.bare c rfl
    by_cases brace : c = '{'
    · have unclosed : '}' ∉ rest := unnamed.unclosed rest (by rw [brace])
      have all : rest.dropWhile (· != '}') = [] := by
        rw [List.dropWhile_eq_nil_iff]
        exact Text.bne_of_not_mem unclosed
      rw [LineScript.reference?, if_pos brace, all]
    · rw [LineScript.reference?, if_neg brace, if_neg (by simp [plain])]

/-- Behind a dollar sign stands a name in braces, a bare name or none. -/
theorem reference_cases (rest : List Char) :
    (∃ name after, rest = '{' :: (name ++ '}' :: after) ∧ '}' ∉ name) ∨
      (∃ name after, rest = name ++ after ∧ name ≠ [] ∧ (∀ c ∈ name, isNameChar c = true) ∧
        ∀ c ∈ after.head?, isNameChar c = false) ∨
      Unnamed rest := by
  cases rest with
  | nil => exact .inr (.inr ⟨by simp, by simp⟩)
  | cons c rest =>
    by_cases brace : c = '{'
    · subst brace
      by_cases closed : '}' ∈ rest
      · obtain ⟨name, after, shape, open'⟩ := List.eq_append_cons_of_mem closed
        exact .inl ⟨name, after, by rw [shape], open'⟩
      · refine .inr (.inr ⟨by simp [isNameChar], ?_⟩)
        intro more shape
        rwa [← (List.cons.inj shape).2]
    · by_cases named : isNameChar c = true
      · refine .inr (.inl ⟨c :: rest.takeWhile isNameChar, rest.dropWhile isNameChar, ?_, ?_, ?_, ?_⟩)
        · rw [List.cons_append, List.takeWhile_append_dropWhile]
        · exact List.cons_ne_nil _ _
        · refine List.forall_mem_cons.mpr ⟨named, ?_⟩
          intro d member
          exact List.mem_takeWhile_imp member
        · exact Text.head_dropWhile isNameChar rest
      · refine .inr (.inr ⟨by simpa using named, ?_⟩)
        intro more shape
        exact absurd (List.cons.inj shape).1 brace

/-! ## Scanning a text -/

theorem exists_scanned : ∀ cs, ∃ pieces, Scanned cs pieces
  | [] => ⟨[], .nil⟩
  | c :: rest => by
    by_cases dollar : c = '$'
    · subst dollar
      obtain ⟨name, after, shape, open'⟩ | ⟨name, after, shape, filled, named, ends⟩ | unnamed :=
        reference_cases rest
      · obtain ⟨pieces, scanned⟩ := exists_scanned after
        exact ⟨.braced name :: pieces, shape ▸ .braced open' scanned⟩
      · obtain ⟨pieces, scanned⟩ := exists_scanned after
        exact ⟨.bare name :: pieces, shape ▸ .bare filled named ends scanned⟩
      · obtain ⟨pieces, scanned⟩ := exists_scanned rest
        exact ⟨.kept '$' :: pieces, .kept (fun _ => unnamed) scanned⟩
    · obtain ⟨pieces, scanned⟩ := exists_scanned rest
      exact ⟨.kept c :: pieces, .kept (fun same => absurd same dollar) scanned⟩
termination_by cs => cs.length
decreasing_by
  · simp only [shape, List.length_cons, List.length_append]
    omega
  · simp only [shape, List.length_cons, List.length_append]
    omega
  · exact Nat.lt_succ_self _
  · exact Nat.lt_succ_self _

/-- The first piece of a text is a reference where one is found, and a character elsewhere. -/
theorem Scanned.first {c : Char} {rest : List Char} {pieces : List Piece}
    (scanned : Scanned (c :: rest) pieces) :
    ((c = '$' → Unnamed rest) ∧ ∃ later, pieces = .kept c :: later ∧ Scanned rest later) ∨
      ∃ name after later, c = '$' ∧ reference? rest = some (name, after) ∧
        pieces = (if rest.head? = some '{' then .braced name else .bare name) :: later ∧
          Scanned after later := by
  cases scanned with
  | kept kept later => exact .inl ⟨kept, _, rfl, later⟩
  | braced open' later => exact .inr ⟨_, _, _, rfl, reference?_braced open' _, by simp, later⟩
  | bare filled named ends later =>
    refine .inr ⟨_, _, _, rfl, reference?_bare filled named ends, ?_, later⟩
    obtain ⟨c, cs, rfl, _, plain⟩ := head_bare filled named
    simp [plain]

theorem Scanned.unique {cs : List Char} {pieces other : List Piece} (scanned : Scanned cs pieces)
    (again : Scanned cs other) : pieces = other := by
  induction scanned generalizing other with
  | nil =>
    cases again
    rfl
  | @kept c rest pieces kept _ ih =>
    -- What is kept in one reading is no reference in the other.
    obtain ⟨_, later, rfl, scanned⟩ | ⟨name, after, later, dollar, found, _⟩ := again.first
    · rw [ih scanned]
    · rw [(kept dollar).reference?] at found
      cases found
  | @braced name rest pieces open' _ ih =>
    obtain ⟨kept, _⟩ | ⟨_, _, later, _, found, rfl, scanned⟩ := again.first
    · exact absurd (by simp) ((kept rfl).unclosed _ rfl)
    · rw [reference?_braced open' rest] at found
      cases found
      rw [ih scanned]
      simp
  | @bare name rest pieces filled named ends _ ih =>
    obtain ⟨c, cs, rfl, first, plain⟩ := head_bare filled named
    obtain ⟨kept, _⟩ | ⟨_, _, later, _, found, rfl, scanned⟩ := again.first
    · exact absurd first (by simp [(kept rfl).bare c rfl])
    · rw [reference?_bare filled named ends] at found
      cases found
      rw [ih scanned]
      simp [plain]

/-! ## Expanding a text -/

theorem replaceReferences_kept (value : List Char → List Char) {c : Char} {rest : List Char}
    (kept : c = '$' → Unnamed rest) :
    replaceReferences value (c :: rest) = c :: replaceReferences value rest := by
  rw [replaceReferences]
  by_cases dollar : c = '$'
  · rw [if_pos dollar]
    split
    · rename_i found
      rw [(kept dollar).reference?] at found
      cases found
    · rfl
  · rw [if_neg dollar]

theorem replaceReferences_found (value : List Char → List Char) {rest name after : List Char}
    (found : reference? rest = some (name, after)) :
    replaceReferences value ('$' :: rest) = value name ++ replaceReferences value after := by
  rw [replaceReferences, if_pos rfl]
  split
  · rename_i again
    rw [found] at again
    cases again
    rfl
  · rename_i absent
    rw [found] at absent
    cases absent

theorem nameText_eq (env : Environment) (name : String) : nameText env name = env.referent name := by
  rw [Environment.referent]
  unfold nameText
  split
  · rfl
  · rfl
  · rename_i slash colon
    rw [if_neg slash, if_neg colon]
    rfl

/-- The characters of a text with its references replaced are what its pieces come to. -/
theorem Scanned.replaced {cs : List Char} {pieces : List Piece} (env : Environment)
    (scanned : Scanned cs pieces) :
    String.ofList (replaceReferences
      (fun name => (env.referent (String.ofList name)).toList) cs) =
      String.join (pieces.map (Piece.text env)) := by
  induction scanned with
  | nil =>
    rw [replaceReferences]
    rfl
  | kept kept _ ih =>
    rw [replaceReferences_kept _ kept, String.ofList_cons, ih, List.map_cons, String.join_cons]
    rfl
  | braced open' _ ih =>
    rw [replaceReferences_found _ (reference?_braced open' _), String.ofList_append, ih,
      List.map_cons, String.join_cons, String.ofList_toList, Piece.text, nameText_eq]
  | bare filled named ends _ ih =>
    rw [replaceReferences_found _ (reference?_bare filled named ends), String.ofList_append, ih,
      List.map_cons, String.join_cons, String.ofList_toList, Piece.text, nameText_eq]

theorem Scanned.expand {text : String} {pieces : List Piece} (scanned : Scanned text.toList pieces)
    (env : Environment) : env.expand text = String.join (pieces.map (Piece.text env)) :=
  scanned.replaced env

theorem Piece.text_congr {piece : Piece} {env other : Environment}
    (same : ∀ name ∈ piece.name?, env.find? name = other.find? name) :
    piece.text env = piece.text other := by
  have alike {name : String} (found : env.find? name = other.find? name) :
      nameText env name = nameText other name := by
    rw [nameText_eq, nameText_eq, Environment.referent, Environment.referent, Environment.value,
      Environment.value, found]
  cases piece with
  | kept c => rfl
  | braced name => exact alike (same _ rfl)
  | bare name => exact alike (same _ rfl)

/-! ## Cutting a text -/

/-- Every brace that a dollar sign opens is closed somewhere behind it. -/
def Closed (cs : List Char) : Prop :=
  ∀ before after, cs = before ++ '$' :: '{' :: after → '}' ∈ after

theorem Closed.suffix (front : List Char) {back : List Char} (closed : Closed (front ++ back)) :
    Closed back := by
  intro before after shape
  exact closed (front ++ before) after (by rw [shape, List.append_assoc])

/-- What is opened behind the last closing brace is not closed. -/
theorem closed_of_rtakeWhile {cs : List Char}
    (absent : ¬ ['$', '{'] <:+: cs.rtakeWhile (· != '}')) : Closed cs := by
  intro before after shape
  by_contra unclosed
  have other : ∀ c ∈ ('$' :: '{' :: after).reverse, (c != '}') = true :=
    Text.bne_of_not_mem (by simp [unclosed])
  refine absent ⟨before.rtakeWhile (· != '}'), after, ?_⟩
  rw [shape, List.rtakeWhile, List.rtakeWhile, List.reverse_append,
    List.takeWhile_append_of_pos other]
  simp

/-- A text can be cut where no reference reaches over the cut: each brace that is opened before it
is closed before it, and neither a name nor a brace begins behind it. -/
theorem Scanned.append {cs more : List Char} {pieces later : List Piece}
    (scanned : Scanned cs pieces) (behind : Scanned more later) (closed : Closed cs)
    (apart : ∀ c ∈ more.head?, isNameChar c = false ∧ c ≠ '{') :
    Scanned (cs ++ more) (pieces ++ later) := by
  induction scanned with
  | nil => exact behind
  | @kept c rest pieces kept _ ih =>
    refine .kept ?_ (ih (Closed.suffix [c] closed))
    -- A dollar sign that is kept must find no reference in what is added behind it.
    intro dollar
    obtain ⟨unnamed, unclosed⟩ := kept dollar
    cases rest with
    | nil =>
      refine ⟨fun d member => (apart d member).1, ?_⟩
      intro others shape
      exact absurd rfl (apart '{' (by simp [show more = _ from shape])).2
    | cons d rest =>
      refine ⟨unnamed, ?_⟩
      intro others shape
      obtain ⟨rfl, rfl⟩ := List.cons.inj shape
      subst dollar
      exact absurd (closed [] rest rfl) (unclosed rest rfl)
  | @braced name rest pieces open' _ ih =>
    have inner : Closed rest := by
      refine Closed.suffix ('$' :: '{' :: (name ++ ['}'])) ?_
      simpa using closed
    simpa using Scanned.braced open' (ih inner)
  | @bare name rest pieces filled named ends _ ih =>
    have inner : Closed rest := Closed.suffix ('$' :: name) closed
    have stops : ∀ c ∈ (rest ++ more).head?, isNameChar c = false := by
      cases rest with
      | nil => exact fun c member => (apart c member).1
      | cons d rest => exact ends
    simpa using Scanned.bare filled named stops (ih inner)

/-! ## Expansion -/

/-- Expansion reads a text once from the left as pieces that are the same whatever the environment
is, and puts what the pieces come to in their places. So it leaves a text without dollar signs as it
is, and depends on the names that the text refers to only; and a text can be expanded in two parts
if all braces that are opened in the first are closed there, and the second begins with no character
that a reference could go on with. -/
theorem Environment.expand_pieces (text : String) :
    ∃ pieces,
      (Scanned text.toList pieces ∧ ∀ other, Scanned text.toList other → other = pieces) ∧
      (∀ env : Environment, env.expand text = String.join (pieces.map (Piece.text env))) ∧
      ('$' ∉ text.toList → ∀ env : Environment, env.expand text = text) ∧
      (∀ env other : Environment,
        (∀ piece ∈ pieces, ∀ name ∈ piece.name?, env.find? name = other.find? name) →
          env.expand text = other.expand text) ∧
      ∀ more : String, ¬ ['$', '{'] <:+: text.toList.rtakeWhile (· != '}') →
        (∀ c ∈ more.toList.head?, isNameChar c = false ∧ c ≠ '{') →
          ∀ env : Environment, env.expand (text ++ more) = env.expand text ++ env.expand more := by
  obtain ⟨pieces, scanned⟩ := exists_scanned text.toList
  refine ⟨pieces, ⟨scanned, fun other again => again.unique scanned⟩, scanned.expand, ?_, ?_, ?_⟩
  · intro plain env
    exact env.expand_of_plain plain
  · intro env other same
    rw [scanned.expand, scanned.expand]
    congr 1
    exact List.map_congr_left fun piece member => Piece.text_congr (same piece member)
  · intro more absent apart env
    obtain ⟨later, behind⟩ := exists_scanned more.toList
    have whole : Scanned (text ++ more).toList (pieces ++ later) := by
      rw [String.toList_append]
      exact scanned.append behind (closed_of_rtakeWhile absent) apart
    rw [whole.expand, scanned.expand, behind.expand, List.map_append, String.join_append]

/-- The text `x${A$}$B}$`, which ends in a dollar sign, before one that begins with a brace. -/
theorem Environment.expand_pieces_dollar :
    let text := "x$\x7bA$\x7d$B\x7d$"
    let more := "\x7d$B"
    ¬ ['$', '{'] <:+: text.toList.rtakeWhile (· != '}') ∧
      (∀ c ∈ more.toList.head?, isNameChar c = false ∧ c ≠ '{') ∧
      ∀ env : Environment, env.expand (text ++ more) = env.expand text ++ env.expand more := by
  intro text more
  have absent : ¬ ['$', '{'] <:+: text.toList.rtakeWhile (· != '}') := by decide
  have apart : ∀ c ∈ more.toList.head?, isNameChar c = false ∧ c ≠ '{' := by
    simp [more, isNameChar]
  obtain ⟨_, _, _, _, _, cut⟩ := Environment.expand_pieces text
  exact ⟨absent, apart, cut more absent apart⟩

end LineScript
