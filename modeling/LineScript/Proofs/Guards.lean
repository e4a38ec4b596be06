import Mathlib.Data.List.TakeWhile
import LineScript.Proofs.Blanks
import LineScript.Script.Guard

/-!
# Guards as they are written
A guard is read back from what stands between its brackets (`parse_body`) if its parts run neither
into each other nor into blanks. Whatever is read is such a guard (`canonical_of_parse`), and it is
read unless there is no name (`parse_fails_iff`).
-/
namespace LineScript.Script.Guard
open LineScript.Text

/-- A guard whose parts are told apart when it is read: its name is there, holds no colon and does
not begin with a blank, nor with an exclamation mark that would negate it; what stands last between
the brackets is no blank; and what is no suffix is empty. -/
structure Canonical (guard : Guard) : Prop where
  named : guard.name ≠ ""
  colonless : ':' ∉ guard.name.toList
  start : ∀ c ∈ guard.name.toList.head?, isBlank c = false
  bangless : guard.negated = false → guard.name.toList.head? ≠ some '!'
  bare : guard.hasSuffix = false →
    guard.suffix = "" ∧ ∀ c ∈ guard.name.toList.getLast?, isBlank c = false
  suffixed : guard.hasSuffix = true → ∀ c ∈ guard.suffix.toList.getLast?, isBlank c = false

/-- The name and the suffix as they stand between the brackets. -/
private def tail (guard : Guard) : List Char :=
  guard.name.toList ++ if guard.hasSuffix then ':' :: guard.suffix.toList else []

private theorem toList_body (guard : Guard) :
    guard.body.toList = (if guard.negated then ['!'] else []) ++ guard.tail := by
  cases negation : guard.negated <;> cases suffixed : guard.hasSuffix <;>
    simp [body, tail, negation, suffixed]

private theorem head?_tail {guard : Guard} (canonical : guard.Canonical) :
    ∃ c, guard.name.toList.head? = some c ∧ guard.tail.head? = some c := by
  cases shape : guard.name.toList with
  | nil => exact absurd (String.toList_eq_nil_iff.mp shape) canonical.named
  | cons c cs => exact ⟨c, rfl, by simp [tail, shape]⟩

private theorem last_tail {guard : Guard} (canonical : guard.Canonical) :
    ∀ c ∈ guard.tail.getLast?, isBlank c = false := by
  intro c last
  cases suffixed : guard.hasSuffix with
  | false =>
    refine (canonical.bare suffixed).2 c ?_
    simpa [tail, suffixed] using last
  | true =>
    cases shape : guard.suffix.toList with
    | nil =>
      have colon : ':' = c := by simpa [tail, suffixed, shape] using last
      rw [← colon]
      decide
    | cons d ds =>
      refine canonical.suffixed suffixed c ?_
      simpa [tail, suffixed, shape] using last

private theorem stripChars_tail {guard : Guard} (canonical : guard.Canonical) :
    stripChars guard.tail = guard.tail := by
  obtain ⟨first, named, begins⟩ := head?_tail canonical
  refine Trimmed.stripChars ⟨fun c member => ?_, last_tail canonical⟩
  exact canonical.start c (by rwa [named, ← begins])

private theorem ofChars?_tail {guard : Guard} (canonical : guard.Canonical) :
    ofChars? guard.negated guard.tail = some guard := by
  have other : ∀ c ∈ guard.name.toList, (c != ':') = true := bne_of_not_mem canonical.colonless
  have filled : guard.name.toList.isEmpty = false := by simpa using canonical.named
  cases suffixed : guard.hasSuffix with
  | false =>
    have whole : guard.tail = guard.name.toList ++ [] := by simp [tail, suffixed]
    have absent : guard.suffix = "" := (canonical.bare suffixed).1
    have colonless := canonical.colonless
    rw [ofChars?, whole, List.takeWhile_append_of_pos other, List.dropWhile_append_of_pos other]
    cases guard
    simp_all
  | true =>
    have whole : guard.tail = guard.name.toList ++ ':' :: guard.suffix.toList := by
      simp [tail, suffixed]
    rw [ofChars?, whole, List.takeWhile_append_of_pos other, List.dropWhile_append_of_pos other]
    cases guard
    simp_all

private theorem ofBody?_unmarked {c : Char} (cs : List Char) (other : c ≠ '!') :
    ofBody? (c :: cs) = ofChars? false (c :: cs) := by
  rw [ofBody?]
  intro rest marked
  exact other (List.cons.inj marked).1

/-- A canonical guard is read back from what stands between its brackets. -/
theorem parse_body {guard : Guard} (canonical : guard.Canonical) :
    parse guard.body = .ok guard := by
  obtain ⟨first, named, begins⟩ := head?_tail canonical
  obtain ⟨cs, shape⟩ := List.head?_eq_some_iff.mp begins
  have read := ofChars?_tail canonical
  have kept := stripChars_tail canonical
  have shown := toList_body guard
  have body : ofBody? (stripChars guard.body.toList) = some guard := by
    cases negation : guard.negated with
    | false =>
      have other : first ≠ '!' := fun bang => canonical.bangless negation (by rw [named, bang])
      have bare : guard.body.toList = guard.tail := by simpa [negation] using shown
      rw [bare, kept, shape, ofBody?_unmarked cs other, ← shape, ← negation, read]
    | true =>
      have whole : guard.body.toList = '!' :: guard.tail := by simpa [negation] using shown
      have marked : stripChars ('!' :: guard.tail) = '!' :: guard.tail := by
        refine Trimmed.stripChars ⟨by simp; decide, fun c last => last_tail canonical c ?_⟩
        simpa [shape] using last
      rw [whole, marked, ofBody?, kept, ← negation, read]
  simp only [parse, body]

theorem toList_print (guard : Guard) : guard.print.toList = '[' :: (guard.body.toList ++ [']']) := by
  simp [print]

theorem body_of_print (guard : Guard) :
    String.ofList (guard.print.toList.drop 1).dropLast = guard.body := by
  rw [toList_print, List.drop_one, List.tail_cons, List.dropLast_concat, String.ofList_toList]

/-! ## What is read -/

/-- The text without a mark in front that negates a guard. -/
def removeMark : List Char → List Char
  | '!' :: rest => rest
  | body => body

/-- The name and the suffix that are read: the text is stripped, then the mark is removed and the
rest is stripped again. -/
def unmarked (text : String) : List Char := stripChars (removeMark (stripChars text.toList))

theorem removeMark_of_plain {body : List Char} (plain : body.head? ≠ some '!') :
    removeMark body = body := by
  cases body with
  | nil => rfl
  | cons c cs =>
    have other : c ≠ '!' := by simpa using plain
    simp [removeMark, other]

private theorem ofBody?_trimmed {body : List Char} (trimmed : Trimmed body) :
    ofBody? body = ofChars? (body.head? == some '!') (stripChars (removeMark body)) := by
  cases body with
  | nil => rfl
  | cons c cs =>
    by_cases marked : c = '!'
    · subst marked
      rfl
    · have plain : ((c :: cs).head? == some '!') = false := by simpa using marked
      rw [ofBody?_unmarked cs marked, removeMark_of_plain (by simpa using marked),
        trimmed.stripChars, plain]

/-- What is read is told by the text without its mark, and by whether it has one. -/
private theorem parse_eq (text : String) :
    parse text = match ofChars? ((stripChars text.toList).head? == some '!') (unmarked text) with
      | some guard => .ok guard
      | none => .error (.emptyGuard text) := by
  rw [parse, ofBody?_trimmed (trimmed_stripChars _)]
  rfl

private theorem ofChars?_eq_none_iff (negated : Bool) (cs : List Char) :
    ofChars? negated cs = none ↔ cs = [] ∨ cs.head? = some ':' := by
  cases cs with
  | nil => simp [ofChars?]
  | cons c cs =>
    by_cases colon : c = ':'
    · simp [ofChars?, colon]
    · simp [ofChars?, colon]

/-- A guard is read unless nothing is left that could be its name. -/
theorem parse_fails_iff (text : String) :
    (∃ fault, parse text = .error fault) ↔
      unmarked text = [] ∨ (unmarked text).head? = some ':' := by
  rw [parse_eq, ← ofChars?_eq_none_iff ((stripChars text.toList).head? == some '!')]
  cases ofChars? ((stripChars text.toList).head? == some '!') (unmarked text) <;> simp

/-- The parts of a trimmed text, which are cut at its first colon, make a canonical guard. -/
private theorem canonical_of_ofChars? {negated : Bool} {cs : List Char} {guard : Guard}
    (read : ofChars? negated cs = some guard) (trimmed : Trimmed cs)
    (bangless : negated = false → cs.head? ≠ some '!') : guard.Canonical := by
  have whole : cs.takeWhile (· != ':') ++ cs.dropWhile (· != ':') = cs :=
    List.takeWhile_append_dropWhile
  rw [ofChars?] at read
  split at read
  · cases read
  rename_i filled
  have named : cs.takeWhile (· != ':') ≠ [] := by simpa using filled
  -- The name begins as the text does, and whichever part is the last ends as the text does.
  have begins : (cs.takeWhile (· != ':')).head? = cs.head? := by
    obtain ⟨c, name, shape⟩ := List.exists_cons_of_ne_nil named
    have same := congrArg List.head? whole
    rw [shape] at same ⊢
    exact same
  have ends {front back : List Char} (split : front ++ back = cs) :
      ∀ c ∈ back.getLast?, isBlank c = false := by
    intro c last
    refine trimmed.stop c ?_
    rw [Option.mem_def] at last
    rw [Option.mem_def, ← split, List.getLast?_append, last]
    rfl
  cases read
  constructor
  case named => simpa using named
  case colonless =>
    intro colon
    have among : ':' ∈ cs.takeWhile (· != ':') := by simpa using colon
    simpa using List.mem_takeWhile_imp among
  case start => simpa [begins] using trimmed.start
  case bangless =>
    intro positive
    simpa [begins] using bangless positive
  case bare =>
    intro absent
    have colonless : ':' ∉ cs := by simpa using absent
    have rest : cs.dropWhile (· != ':') = [] := by
      rw [List.dropWhile_eq_nil_iff]
      exact bne_of_not_mem colonless
    have all : [] ++ cs.takeWhile (· != ':') = cs := by simpa [rest] using whole
    refine ⟨by simp [rest], ?_⟩
    simpa using ends all
  case suffixed =>
    intro _
    cases rest : cs.dropWhile (· != ':') with
    | nil => simp
    | cons colon suffix =>
      rw [rest, ← List.singleton_append, ← List.append_assoc] at whole
      simpa using ends whole

theorem canonical_of_parse {text : String} {guard : Guard} (read : parse text = .ok guard) :
    guard.Canonical := by
  rw [parse_eq] at read
  split at read
  · rename_i found shape
    cases read
    refine canonical_of_ofChars? shape (trimmed_stripChars _) ?_
    intro positive
    have plain : (stripChars text.toList).head? ≠ some '!' := by simpa using positive
    rwa [unmarked, removeMark_of_plain plain, (trimmed_stripChars _).stripChars]
  · cases read

/-- Reading a guard fails just if there is no name, and gives a canonical guard otherwise. A guard
comes back from the way it is printed if it is canonical, and only then; so whatever was read is
printed and read again as itself. -/
theorem parse_print_iff_canonical (text : String) :
    ((∃ fault, parse text = .error fault) ↔
        unmarked text = [] ∨ (unmarked text).head? = some ':') ∧
      (∀ guard, parse text = .ok guard →
        guard.Canonical ∧ parse (String.ofList (guard.print.toList.drop 1).dropLast) = .ok guard) ∧
      ∀ guard : Guard,
        parse (String.ofList (guard.print.toList.drop 1).dropLast) = .ok guard ↔ guard.Canonical := by
  have back (guard : Guard) :
      parse (String.ofList (guard.print.toList.drop 1).dropLast) = .ok guard ↔ guard.Canonical := by
    rw [body_of_print]
    constructor
    · intro read
      exact canonical_of_parse read
    · intro canonical
      exact parse_body canonical
  refine ⟨parse_fails_iff text, ?_, back⟩
  intro guard read
  have canonical := canonical_of_parse read
  exact ⟨canonical, (back guard).mpr canonical⟩

/-- A negated guard whose name begins with the mark and ends in a blank. -/
theorem parse_print_iff_canonical_marked :
    let guard : Guard := ⟨"!a ", "b:]", true, true⟩
    parse " ! !a :b:]\t" = .ok guard ∧ guard.Canonical ∧
      parse (String.ofList (guard.print.toList.drop 1).dropLast) = .ok guard := by
  intro guard
  have read : parse " ! !a :b:]\t" = .ok ⟨"!a ", "b:]", true, true⟩ := rfl
  exact ⟨read, (parse_print_iff_canonical " ! !a :b:]\t").2.1 guard read⟩

end LineScript.Script.Guard
