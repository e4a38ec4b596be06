import Mathlib.Algebra.Order.Field.Rat
import Mathlib.Data.Nat.Digits.Defs
import Mathlib.Tactic.FieldSimp
import LineScript.Builtin.Looking
import LineScript.Proofs.Blanks

/-!
# What durations are written as
A duration is a decimal number and the name of a unit, with nothing between them and blanks around
them (`Writes`). Where the number ends is plain, since neither a digit nor a point begins a unit; so
there is one reading at most, and what is read is the number of those units, before it is rounded.
Everything else is refused (`parseDuration_grammar`).
-/
namespace LineScript.Numeral

/-! ## The grammar -/

/-- One or more decimal digits of any script. -/
structure IsDigits (cs : List Char) : Prop where
  filled : cs ≠ []
  digits : ∀ c ∈ cs, Text.isDigit c = true

def digitsOf (cs : List Char) : List Nat := cs.filterMap Text.digitValue?

/-- The number that digits write, the last of them counting ones. -/
def numberOf (cs : List Char) : Nat := Nat.ofDigits 10 (digitsOf cs).reverse

/-- The text writes a decimal number: digits, and the digits of its fraction behind a point. -/
inductive IsDecimal : List Char → ℚ → Prop
  | whole {digits : List Char} : IsDigits digits → IsDecimal digits (numberOf digits)
  | point {digits places : List Char} : IsDigits digits → IsDigits places →
      IsDecimal (digits ++ '.' :: places) (numberOf digits + numberOf places / 10 ^ places.length)

/-- The text names a unit of so many seconds. A number without a unit counts seconds. -/
inductive NamesUnit : List Char → ℚ → Prop
  | unnamed : NamesUnit [] 1
  | milliseconds : NamesUnit ['m', 's'] (1 / 1000)
  | seconds : NamesUnit ['s'] 1
  | minutes : NamesUnit ['m'] 60
  | hours : NamesUnit ['h'] 3600

/-- The text is a number, which is this amount, and the name of a unit of so many seconds. -/
structure Writes (text number unit : List Char) (amount factor : ℚ) : Prop where
  shape : text = number ++ unit
  number : IsDecimal number amount
  unit : NamesUnit unit factor

def quotient (ratio : Nat × Nat) : ℚ := ratio.1 / ratio.2

/-- The duration is this amount of a unit of so many seconds; its double is the product of the two,
each of them rounded. -/
structure Duration.Denotes (duration : Duration) (amount factor : ℚ) : Prop where
  count : quotient duration.count = amount
  unit : quotient duration.unit.ratio = factor
  seconds : quotient duration.seconds = amount * factor
  rounded : duration.bits = mulBits (nearestBits duration.count.1 duration.count.2)
    (nearestBits duration.unit.ratio.1 duration.unit.ratio.2)

/-! ## Digits -/

theorem spanDigits_eq (cs : List Char) :
    spanDigits cs = (digitsOf (cs.takeWhile Text.isDigit), cs.dropWhile Text.isDigit) := by
  induction cs with
  | nil => rfl
  | cons c cs ih =>
    rw [spanDigits, List.takeWhile_cons, List.dropWhile_cons, Text.isDigit]
    cases value : Text.digitValue? c with
    | none => simp [digitsOf]
    | some digit => simp [digitsOf, ih, value]

/-- A row of digits is split off as a whole if no digit follows. -/
theorem spanDigits_append {digits rest : List Char} (all : ∀ c ∈ digits, Text.isDigit c = true)
    (stops : ∀ c ∈ rest.head?, Text.isDigit c = false) :
    spanDigits (digits ++ rest) = (digitsOf digits, rest) := by
  rw [spanDigits_eq, List.takeWhile_append_of_pos all, List.dropWhile_append_of_pos all,
    Text.takeWhile_of_head stops, Text.dropWhile_of_head stops, List.append_nil]

theorem isDigits_of_spanDigits {cs : List Char} (filled : (spanDigits cs).1.isEmpty = false) :
    ∃ digits, IsDigits digits ∧ cs = digits ++ (spanDigits cs).2 := by
  rw [spanDigits_eq] at filled ⊢
  have all : ∀ c ∈ cs.takeWhile Text.isDigit, Text.isDigit c = true :=
    List.all_eq_true.mp List.all_takeWhile
  refine ⟨cs.takeWhile Text.isDigit, ⟨?_, all⟩, List.takeWhile_append_dropWhile.symm⟩
  intro empty
  simp [empty, digitsOf] at filled

theorem length_digitsOf {cs : List Char} (all : ∀ c ∈ cs, Text.isDigit c = true) :
    (digitsOf cs).length = cs.length := by
  induction cs with
  | nil => rfl
  | cons c cs ih =>
    rw [List.forall_mem_cons] at all
    obtain ⟨digit, value⟩ := Option.isSome_iff_exists.mp all.1
    rw [digitsOf, List.filterMap_cons_some value, List.length_cons, List.length_cons, ← ih all.2]
    rfl

theorem digitsOf_isEmpty {digits : List Char} (digital : IsDigits digits) :
    (digitsOf digits).isEmpty = false := by
  rw [List.isEmpty_eq_false_iff, ← List.length_pos_iff, length_digitsOf digital.digits,
    List.length_pos_iff]
  exact digital.filled

theorem ofDigits_eq (digits : List Nat) : ofDigits digits = Nat.ofDigits 10 digits.reverse := by
  rw [ofDigits, Nat.ofDigits_eq_foldr, List.foldr_reverse]
  simp only [Nat.cast_id]
  congr 1
  funext n digit
  ring

theorem ofDigits_digitsOf (cs : List Char) : ofDigits (digitsOf cs) = numberOf cs :=
  ofDigits_eq _

theorem ofDigits_append (whole fraction : List Nat) :
    ofDigits (whole ++ fraction) = ofDigits whole * 10 ^ fraction.length + ofDigits fraction := by
  rw [ofDigits_eq, ofDigits_eq, ofDigits_eq, List.reverse_append, Nat.ofDigits_append,
    List.length_reverse]
  ring

/-- Digits are those of ASCII, or stand beyond its letters, and in any case between the blanks. -/
theorem place_of_isDigit {c : Char} (digit : Text.isDigit c = true) :
    0x30 ≤ c.toNat ∧ c.toNat < 0x3a ∨ 0xa0 < c.toNat ∧ c.toNat < 0x1680 ∨
      0x1680 < c.toNat ∧ c.toNat < 0x2000 ∨ 0x3000 < c.toNat := by
  have rows : ∀ first ∈ Text.zeros, first = 0x30 ∨ 0xa0 < first ∧ first + 10 ≤ 0x1680 ∨
      0x1680 < first ∧ first + 10 ≤ 0x2000 ∨ 0x3000 < first := by decide
  rw [Text.isDigit, Text.digitValue?, Option.isSome_map, List.find?_isSome] at digit
  obtain ⟨first, member, row⟩ := digit
  have place := rows first member
  simp only [Bool.and_eq_true, decide_eq_true_eq] at row
  omega

theorem isDigit_of_place {c : Char} (place : c.toNat < 0x30 ∨ 0x3a ≤ c.toNat ∧ c.toNat ≤ 0xa0) :
    Text.isDigit c = false := by
  rw [Bool.eq_false_iff]
  intro digit
  have row := place_of_isDigit digit
  omega

theorem isBlank_of_isDigit {c : Char} (digit : Text.isDigit c = true) : Text.isBlank c = false := by
  have row := place_of_isDigit digit
  simp only [Text.isBlank, Bool.or_eq_false_iff, Bool.and_eq_false_iff, decide_eq_false_iff_not,
    beq_eq_false_iff_ne]
  omega

/-! ## Units -/

theorem namesUnit_iff {cs : List Char} {factor : ℚ} : NamesUnit cs factor ↔
    ∃ unit, TimeUnit.read? cs = some unit ∧ quotient unit.ratio = factor := by
  constructor
  · rintro (_ | _ | _ | _ | _) <;> exact ⟨_, rfl, by norm_num [quotient, TimeUnit.ratio]⟩
  · rintro ⟨unit, read, rfl⟩
    unfold TimeUnit.read? at read
    split at read <;> cases read <;> norm_num [quotient, TimeUnit.ratio]
    · exact .unnamed
    · exact .milliseconds
    · exact .seconds
    · exact .minutes
    · exact .hours

/-- The letters of a unit are neither part of a number nor blank. -/
theorem NamesUnit.letters {unit : List Char} {factor : ℚ} (named : NamesUnit unit factor) :
    ∀ c ∈ unit, Text.isDigit c = false ∧ c ≠ '.' ∧ Text.isBlank c = false := by
  have letter : ∀ c ∈ unit, c = 'm' ∨ c = 's' ∨ c = 'h' := by cases named <;> simp
  intro c member
  obtain rfl | rfl | rfl := letter c member <;>
    exact ⟨isDigit_of_place (by decide), by decide, by decide⟩

/-! ## Amounts -/

theorem quotient_mul (one two : Nat × Nat) :
    quotient (one.1 * two.1, one.2 * two.2) = quotient one * quotient two := by
  rw [quotient, quotient, quotient, Nat.cast_mul, Nat.cast_mul, mul_div_mul_comm]

theorem quotient_count {places : List Char} (all : ∀ c ∈ places, Text.isDigit c = true)
    (digits : List Char) (unit : TimeUnit) :
    quotient (Duration.count ⟨digitsOf digits, digitsOf places, unit⟩) =
      numberOf digits + numberOf places / 10 ^ places.length := by
  rw [quotient, Duration.count, ofDigits_append, ofDigits_digitsOf, ofDigits_digitsOf,
    length_digitsOf all]
  have power : ((tenTo places.length : Nat) : ℚ) = 10 ^ places.length := by
    rw [tenTo, Nat.pow_eq]
    push_cast
    rfl
  have positive : (10 : ℚ) ^ places.length ≠ 0 := by positivity
  push_cast
  rw [power]
  field_simp

theorem Duration.denotes {duration : Duration} {amount factor : ℚ}
    (count : quotient duration.count = amount) (unit : quotient duration.unit.ratio = factor) :
    duration.Denotes amount factor where
  count := count
  unit := unit
  seconds := by rw [Duration.seconds, quotient_mul, count, unit]
  rounded := rfl

/-! ## Reading -/

theorem read?_of_writes {text : String} {number unit : List Char} {amount factor : ℚ}
    (writes : Writes (Text.stripChars text.toList) number unit amount factor) :
    ∃ duration, Duration.read? text = some duration ∧ duration.Denotes amount factor := by
  obtain ⟨shape, decimal, named⟩ := writes
  obtain ⟨time, read, factor⟩ := namesUnit_iff.mp named
  have behind : ∀ c ∈ unit.head?, Text.isDigit c = false := fun c member =>
    (named.letters c (List.mem_of_mem_head? member)).1
  cases decimal with
  | whole digital =>
    refine ⟨⟨digitsOf number, [], time⟩, ?_, Duration.denotes ?_ factor⟩
    · rw [Duration.read?, shape, spanDigits_append digital.digits behind]
      simp only [digitsOf_isEmpty digital]
      rw [readFraction?]
      · simp [read]
      · rintro rest rfl
        exact (named.letters '.' (by simp)).2.1 rfl
    · simpa [numberOf, digitsOf] using @quotient_count [] (by simp) number time
  | @point digits places digital fraction =>
    have point : ∀ c ∈ ('.' :: places ++ unit).head?, Text.isDigit c = false := by
      simpa using isDigit_of_place (by decide)
    refine ⟨⟨digitsOf digits, digitsOf places, time⟩, ?_, Duration.denotes ?_ factor⟩
    · rw [Duration.read?, shape, List.append_assoc, spanDigits_append digital.digits point]
      simp only [digitsOf_isEmpty digital]
      simp [readFraction?, spanDigits_append fraction.digits behind, digitsOf_isEmpty fraction,
        read]
    · exact quotient_count fraction.digits digits time

theorem exists_writes_of_readFraction? {digits rest : List Char} (digital : IsDigits digits)
    {whole : List Nat} {duration : Duration} (read : readFraction? whole rest = some duration) :
    ∃ number unit amount factor, Writes (digits ++ rest) number unit amount factor := by
  unfold readFraction? at read
  split at read
  · next rest =>
    by_cases filled : (spanDigits rest).1.isEmpty = true
    · simp [filled] at read
    · obtain ⟨places, fraction, shape⟩ := isDigits_of_spanDigits (by simpa using filled)
      simp only [filled] at read
      obtain ⟨time, found, -⟩ := Option.map_eq_some_iff.mp read
      refine ⟨digits ++ '.' :: places, (spanDigits rest).2, _, _, ?_, .point digital fraction,
        namesUnit_iff.mpr ⟨time, found, rfl⟩⟩
      rw [List.append_assoc, List.cons_append, ← shape]
  · obtain ⟨time, found, -⟩ := Option.map_eq_some_iff.mp read
    exact ⟨digits, rest, _, _, rfl, .whole digital, namesUnit_iff.mpr ⟨time, found, rfl⟩⟩

theorem exists_writes_of_read? {text : String} {duration : Duration}
    (read : Duration.read? text = some duration) : ∃ number unit amount factor,
      Writes (Text.stripChars text.toList) number unit amount factor := by
  rw [Duration.read?] at read
  by_cases filled : (spanDigits (Text.stripChars text.toList)).1.isEmpty = true
  · simp [filled] at read
  · obtain ⟨digits, digital, shape⟩ := isDigits_of_spanDigits (by simpa using filled)
    simp only [filled] at read
    rw [shape]
    exact exists_writes_of_readFraction? digital read

/-! ## Where the number ends -/

/-- A digit, or the point before a fraction. -/
def isNumberChar (c : Char) : Bool := Text.isDigit c || c == '.'

theorem IsDecimal.chars {number : List Char} {amount : ℚ} (decimal : IsDecimal number amount) :
    ∀ c ∈ number, isNumberChar c = true := by
  cases decimal with
  | whole digital =>
    intro c member
    simp [isNumberChar, digital.digits c member]
  | point digital fraction =>
    intro c member
    simp only [List.mem_append, List.mem_cons] at member
    obtain member | rfl | member := member
    · simp [isNumberChar, digital.digits c member]
    · rfl
    · simp [isNumberChar, fraction.digits c member]

theorem IsDecimal.visible {number : List Char} {amount : ℚ} (decimal : IsDecimal number amount) :
    ∀ c ∈ number, Text.isBlank c = false := by
  intro c member
  have part := decimal.chars c member
  simp only [isNumberChar, Bool.or_eq_true, beq_iff_eq] at part
  obtain digit | rfl := part
  · exact isBlank_of_isDigit digit
  · decide

namespace Writes

variable {text number unit : List Char} {amount factor : ℚ}
  (writes : Writes text number unit amount factor)
include writes

theorem number_eq : number = text.takeWhile isNumberChar := by
  have stops : ∀ c ∈ unit.head?, isNumberChar c = false := by
    intro c member
    have letter := writes.unit.letters c (List.mem_of_mem_head? member)
    simp [isNumberChar, letter]
  rw [writes.shape, List.takeWhile_append_of_pos writes.number.chars, Text.takeWhile_of_head stops,
    List.append_nil]

theorem texts_eq {number' unit' : List Char} {amount' factor' : ℚ}
    (again : Writes text number' unit' amount' factor') : number' = number ∧ unit' = unit := by
  have same : number' = number := again.number_eq.trans writes.number_eq.symm
  have both : number ++ unit' = number ++ unit := by rw [← writes.shape, again.shape, same]
  exact ⟨same, List.append_cancel_left both⟩

theorem stripped {before after : List Char} (front : ∀ c ∈ before, Text.isBlank c = true)
    (back : ∀ c ∈ after, Text.isBlank c = true) :
    Text.stripChars (before ++ text ++ after) = text := by
  have visible : ∀ c ∈ text, Text.isBlank c = false := by
    rw [writes.shape]
    intro c member
    obtain member | member := List.mem_append.mp member
    · exact writes.number.visible c member
    · exact (writes.unit.letters c member).2.2
  have trimmed : Text.Trimmed text :=
    ⟨fun c member => visible c (List.mem_of_mem_head? member),
      fun c member => visible c (List.mem_of_mem_getLast? member)⟩
  rw [Text.stripChars_append _ back, Text.stripChars, List.dropWhile_append_of_pos front]
  exact trimmed.stripChars

end Writes

end LineScript.Numeral

namespace LineScript.Builtin
open Numeral

/-- The answer tells what a text writes between the blanks at its ends: the duration of a number and
a unit, which are the only ones that are written there, or that none is. -/
def Tells (text : String) : Except UsageFault Duration → Prop
  | .ok duration => ∃ number unit amount factor,
      Writes (Text.stripChars text.toList) number unit amount factor ∧
        duration.Denotes amount factor ∧ ∀ number' unit' amount' factor',
          Writes (Text.stripChars text.toList) number' unit' amount' factor' →
            number' = number ∧ unit' = unit ∧ amount' = amount ∧ factor' = factor
  | .error fault => fault = .invalidDuration text ∧ ∀ number unit amount factor,
      ¬Writes (Text.stripChars text.toList) number unit amount factor

theorem tells_parseDuration (text : String) : Tells text (parseDuration text) := by
  cases read : Duration.read? text with
  | none =>
    rw [parseDuration, read]
    refine ⟨rfl, fun number unit amount factor writes => ?_⟩
    obtain ⟨duration, found, -⟩ := read?_of_writes writes
    exact absurd (read.symm.trans found) (by simp)
  | some duration =>
    rw [parseDuration, read]
    obtain ⟨number, unit, amount, factor, writes⟩ := exists_writes_of_read? read
    have denotes {number unit : List Char} {amount factor : ℚ}
        (writes : Writes (Text.stripChars text.toList) number unit amount factor) :
        duration.Denotes amount factor := by
      obtain ⟨found, same, denotes⟩ := read?_of_writes writes
      rwa [Option.some.inj (read.symm.trans same)]
    refine ⟨number, unit, amount, factor, writes, denotes writes, ?_⟩
    intro number' unit' amount' factor' again
    obtain ⟨sameNumber, sameUnit⟩ := writes.texts_eq again
    exact ⟨sameNumber, sameUnit, (denotes again).count.symm.trans (denotes writes).count,
      (denotes again).unit.symm.trans (denotes writes).unit⟩

/-- Every answer tells what its text writes, and every number with a unit behind it, written with
blanks around them, is answered by that number of that unit. -/
theorem parseDuration_grammar :
    (∀ text, Tells text (parseDuration text)) ∧
    ∀ before number unit after amount factor, (∀ c ∈ before, Text.isBlank c = true) →
      IsDecimal number amount → NamesUnit unit factor → (∀ c ∈ after, Text.isBlank c = true) →
      ∃ duration,
        parseDuration (String.ofList (before ++ (number ++ unit) ++ after)) = .ok duration ∧
          duration.Denotes amount factor := by
  refine ⟨tells_parseDuration, ?_⟩
  intro before number unit after amount factor front decimal named back
  have writes : Writes (number ++ unit) number unit amount factor := ⟨rfl, decimal, named⟩
  have stripped := writes.stripped front back
  rw [← @String.toList_ofList (before ++ (number ++ unit) ++ after)] at stripped
  obtain ⟨duration, read, denotes⟩ := read?_of_writes (stripped.symm ▸ writes)
  exact ⟨duration, by rw [parseDuration, read], denotes⟩

/-- Twelve and a half milliseconds in digits of two scripts, between a wide blank and a line end. -/
theorem parseDuration_grammar_scripts : ∃ duration,
    parseDuration "\u3000\u0661\u0662.5ms\n" = .ok duration ∧
      duration.Denotes (25 / 2) (1 / 1000) := by
  have decimal : IsDecimal ['\u0661', '\u0662', '.', '5'] (25 / 2) := by
    have digital : IsDigits ['\u0661', '\u0662'] := ⟨by simp, List.all_eq_true.mp rfl⟩
    have fraction : IsDigits ['5'] := ⟨by simp, List.all_eq_true.mp rfl⟩
    have twelve : numberOf ['\u0661', '\u0662'] = 12 := rfl
    have five : numberOf ['5'] = 5 := rfl
    have amount : (25 / 2 : ℚ) = numberOf ['\u0661', '\u0662'] + numberOf ['5'] / 10 ^ 1 := by
      rw [twelve, five]
      norm_num
    rw [amount]
    exact .point digital fraction
  have text : "\u3000\u0661\u0662.5ms\n" = String.ofList
      (['\u3000'] ++ (['\u0661', '\u0662', '.', '5'] ++ ['m', 's']) ++ ['\n']) := rfl
  rw [text]
  exact parseDuration_grammar.2 ['\u3000'] _ _ ['\n'] _ _ (List.all_eq_true.mp rfl) decimal
    .milliseconds (List.all_eq_true.mp rfl)

/-- Near misses. -/
example : ["1.", ".5", "1 s", "1sm", "-1", ""].map parseDuration =
    ["1.", ".5", "1 s", "1sm", "-1", ""].map (.error ∘ .invalidDuration) := rfl

end LineScript.Builtin
