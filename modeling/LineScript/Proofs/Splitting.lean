import Mathlib.Algebra.Ring.Parity
import Mathlib.Data.List.Chain
import Mathlib.Data.List.Forall2
import LineScript.Script.Word

/-!
# How a line is split into words
A line is words with separators around them, and a word is plain and quoted segments in turn
(`Spells`). A line can be taken apart like this unless a quote is left over, and then in one way
only: the one in which it is split (`rawWords_eq_ok_iff`, `rawWords_fails_iff`). Expansion fills in
the plain segments of words that are fixed by then (`splitWords_spells`).
-/
namespace LineScript.Script

/-! ## Words as they stand in a line -/

/-- A character of a plain word: it neither ends the word nor opens a quote. -/
def isPlainChar (c : Char) : Bool := !isSeparator c && c != '\''

/-- What stands behind a word: nothing, or a separator. -/
def EndsWord (rest : List Char) : Prop := ∀ c ∈ rest.head?, isSeparator c = true

theorem endsWord_nil : EndsWord [] := by simp [EndsWord]

theorem endsWord_space (rest : List Char) : EndsWord (' ' :: rest) := by simp [EndsWord, isSeparator]

theorem EndsWord.head_ne_quote {rest : List Char} (ends : EndsWord rest) :
    rest.head? ≠ some '\'' := by
  intro quote
  have separator := ends '\'' (by simp [quote])
  simp [isSeparator] at separator

/-- The characters of a text between its quotes: a quote is doubled. -/
def doubleQuotes (cs : List Char) : List Char :=
  cs.flatMap fun c => if c = '\'' then ['\'', '\''] else [c]

/-- A segment as it stands in a line. -/
def Segment.source : Segment → List Char
  | .plain chars => chars
  | .quoted chars => '\'' :: (doubleQuotes chars ++ ['\''])

/-- A row of segments as it stands in a line. -/
def sourceOf (segments : List Segment) : List Char := segments.flatMap Segment.source

/-- A plain segment is not empty and holds plain characters only. -/
def Segment.WellFormed : Segment → Prop
  | .plain chars => chars ≠ [] ∧ ∀ c ∈ chars, isPlainChar c = true
  | .quoted _ => True

/-- Segments that a line can hold one behind the other: plain and quoted ones in turn. Two plain
ones would be one, and so would two quoted ones, as a doubled quote between quotes is one. -/
structure Alternate (segments : List Segment) : Prop where
  formed : ∀ segment ∈ segments, segment.WellFormed
  turns : segments.IsChain fun first second => first.isQuoted ≠ second.isQuoted

/-- The line is these words, with separators before, between and behind them. -/
inductive Spells : List (List Segment) → List Char → Prop
  | blank {gap : List Char} : (∀ c ∈ gap, isSeparator c = true) → Spells [] gap
  | word (gap : List Char) {rest : List Char} {word : List Segment} {words : List (List Segment)} :
      (∀ c ∈ gap, isSeparator c = true) → word ≠ [] → Alternate word → EndsWord rest →
        Spells words rest → Spells (word :: words) (gap ++ sourceOf word ++ rest)

/-- A separator in front of a line belongs to none of its words. -/
theorem Spells.behind {words : List (List Segment)} {cs : List Char} (spells : Spells words cs)
    {c : Char} (separator : isSeparator c = true) : Spells words (c :: cs) := by
  cases spells with
  | blank blank => exact .blank (List.forall_mem_cons.mpr ⟨separator, blank⟩)
  | word gap blank filled alternate ends rest =>
    exact Spells.word (c :: gap) (List.forall_mem_cons.mpr ⟨separator, blank⟩) filled
      alternate ends rest

@[simp] theorem Segment.isQuoted_plain (chars : List Char) : isQuoted (.plain chars) = false := rfl

@[simp] theorem Segment.isQuoted_quoted (chars : List Char) : isQuoted (.quoted chars) = true := rfl

theorem alternate_nil : Alternate [] := ⟨by simp, List.isChain_nil⟩

theorem Alternate.tail {segment : Segment} {segments : List Segment}
    (alternate : Alternate (segment :: segments)) : Alternate segments :=
  ⟨fun other member => alternate.formed other (List.mem_cons_of_mem _ member), alternate.turns.tail⟩

theorem Alternate.cons {segment : Segment} {segments : List Segment} (formed : segment.WellFormed)
    (turns : ∀ next ∈ segments.head?, segment.isQuoted ≠ next.isQuoted)
    (alternate : Alternate segments) : Alternate (segment :: segments) :=
  ⟨List.forall_mem_cons.mpr ⟨formed, alternate.formed⟩, alternate.turns.cons turns⟩

theorem Alternate.reverse {segments : List Segment} (alternate : Alternate segments) :
    Alternate segments.reverse := by
  refine ⟨fun segment member => alternate.formed segment (List.mem_reverse.mp member), ?_⟩
  rw [List.isChain_reverse]
  exact alternate.turns.imp fun first second differ => differ.symm

theorem Segment.head_source {segment : Segment} (formed : segment.WellFormed) :
    ∃ c cs, segment.source = c :: cs ∧ isSeparator c = false ∧
      (c = '\'' ↔ segment.isQuoted = true) := by
  cases segment with
  | plain chars =>
    obtain ⟨filled, plain⟩ := formed
    obtain ⟨c, cs, rfl⟩ := List.exists_cons_of_ne_nil filled
    have first := plain c (by simp)
    simp only [isPlainChar, Bool.and_eq_true, Bool.not_eq_true', bne_iff_ne] at first
    exact ⟨c, cs, rfl, first.1, by simp [first.2]⟩
  | quoted chars => exact ⟨'\'', _, rfl, rfl, by simp⟩

/-! ## What is spelled is read -/

theorem words_plain_append (done : List Segment) (cs : List Char) :
    ∀ (chars rest : List Char), (∀ c ∈ cs, isPlainChar c = true) →
      Scan.words (.plain done chars) (cs ++ rest) =
        Scan.words (.plain done (cs.reverse ++ chars)) rest := by
  induction cs with
  | nil => intro chars rest _; rfl
  | cons c cs ih =>
    intro chars rest plain
    have first : isPlainChar c = true := plain c (by simp)
    simp only [isPlainChar, Bool.and_eq_true, Bool.not_eq_true', bne_iff_ne] at first
    rw [List.cons_append, Scan.words, if_neg (by simp [first.1]), if_neg first.2,
      ih (c :: chars) rest (fun d member => plain d (by simp [member]))]
    simp

/-- A quote between quotes closes them unless another one follows. -/
theorem words_quoted_cons (done : List Segment) (chars : List Char) (c : Char)
    (rest : List Char) (single : c = '\'' → rest.head? ≠ some '\'') :
    Scan.words (.quoted done chars) (c :: rest) =
      if c = '\'' then Scan.words (.plain (.quoted chars.reverse :: done) []) rest
      else Scan.words (.quoted done (c :: chars)) rest := by
  rw [Scan.words]
  intro tail quote doubled
  exact single quote (by simp [doubled])

theorem words_quoted_append (done : List Segment) (cs : List Char) :
    ∀ (chars rest : List Char), rest.head? ≠ some '\'' →
      Scan.words (.quoted done chars) (doubleQuotes cs ++ '\'' :: rest) =
        Scan.words (.plain (.quoted (chars.reverse ++ cs) :: done) []) rest := by
  induction cs with
  | nil =>
    intro chars rest closed
    rw [List.append_nil]
    exact (words_quoted_cons done chars '\'' rest fun _ => closed).trans (if_pos rfl)
  | cons c cs ih =>
    intro chars rest closed
    have shown : doubleQuotes (c :: cs) ++ '\'' :: rest =
        (if c = '\'' then ['\'', '\''] else [c]) ++ (doubleQuotes cs ++ '\'' :: rest) := by
      simp [doubleQuotes]
    have reversed : chars.reverse ++ c :: cs = (c :: chars).reverse ++ cs := by simp
    rw [shown, reversed, ← ih (c :: chars) rest closed]
    by_cases quote : c = '\''
    · subst quote
      rfl
    · rw [if_neg quote, List.singleton_append, words_quoted_cons _ _ _ _ (absurd · quote),
        if_neg quote]

/-- Where a word ends, its open segment is closed. -/
theorem words_plain_ends {rest : List Char} (ends : EndsWord rest) (done : List Segment)
    (chars : List Char) :
    Scan.words (.plain done chars) rest =
      (Scan.words .between rest).map ((closePlain done chars).reverse :: ·) := by
  cases rest with
  | nil => rfl
  | cons c rest =>
    have separator : isSeparator c = true := ends c rfl
    rw [Scan.words, if_pos separator, Scan.words, if_pos separator]

/-- A quoted segment is read as one unless it goes on with another quote. -/
theorem words_quoted_source (done : List Segment) (chars cs : List Char) {rest : List Char}
    (single : rest.head? ≠ some '\'') :
    Scan.words (.plain done chars) (Segment.source (.quoted cs) ++ rest) =
      Scan.words (.plain (.quoted cs :: closePlain done chars) []) rest := by
  have opened : Scan.words (.plain done chars) (Segment.source (.quoted cs) ++ rest) =
      Scan.words (.quoted (closePlain done chars) []) (doubleQuotes cs ++ '\'' :: rest) := by
    rw [Segment.source, List.cons_append, List.append_assoc, Scan.words, if_neg (by decide),
      if_pos rfl, List.singleton_append]
  rw [opened, words_quoted_append _ cs [] _ single]
  rfl

theorem Alternate.head_ne_quote {chars : List Char} {segments : List Segment}
    (alternate : Alternate (.quoted chars :: segments)) {rest : List Char} (ends : EndsWord rest) :
    (sourceOf segments ++ rest).head? ≠ some '\'' := by
  cases segments with
  | nil => exact ends.head_ne_quote
  | cons next segments =>
    obtain ⟨c, _, begins, _, quote⟩ := next.head_source (alternate.formed next (by simp))
    have unquoted : next.isQuoted = false := by
      simpa using alternate.turns.rel_head? (show next ∈ (next :: segments).head? from rfl)
    have plain : c ≠ '\'' := by
      rw [Ne, quote, unquoted]
      exact Bool.false_ne_true
    simpa [sourceOf, begins] using plain

/-- Segments that take turns with an open one are read as they are up to the end of the word. -/
theorem words_segments {rest : List Char} (ends : EndsWord rest) {segments : List Segment}
    (alternate : Alternate segments) :
    ∀ done chars, (chars ≠ [] → ∀ segment ∈ segments.head?, segment.isQuoted = true) →
      Scan.words (.plain done chars) (sourceOf segments ++ rest) =
        (Scan.words .between rest).map (((closePlain done chars).reverse ++ segments) :: ·) := by
  -- An open plain segment can only be followed by a quoted one, or it would be longer.
  induction segments with
  | nil =>
    intro done chars _
    rw [List.append_nil]
    exact words_plain_ends ends done chars
  | cons segment segments ih =>
    intro done chars turns
    have whole : sourceOf (segment :: segments) ++ rest =
        segment.source ++ (sourceOf segments ++ rest) := by
      simp [sourceOf]
    rw [whole]
    cases segment with
    | plain cs =>
      obtain ⟨filled, plain⟩ := alternate.formed (.plain cs) (by simp)
      have closed : chars = [] := by
        by_contra opened
        exact absurd (turns opened (.plain cs) rfl) (by simp)
      subst closed
      have after : cs.reverse ≠ [] → ∀ next ∈ segments.head?, next.isQuoted = true := by
        intro _ next member
        simpa using alternate.turns.rel_head? member
      rw [Segment.source, words_plain_append done cs [] _ plain, List.append_nil,
        ih alternate.tail done cs.reverse after]
      simp [closePlain, filled]
    | quoted cs =>
      rw [words_quoted_source _ _ _ (alternate.head_ne_quote ends), ih alternate.tail _ [] (by simp)]
      simp [closePlain]

theorem words_between_append {gap : List Char} (blank : ∀ c ∈ gap, isSeparator c = true)
    (rest : List Char) : Scan.words .between (gap ++ rest) = Scan.words .between rest := by
  induction gap with
  | nil => rfl
  | cons c gap ih =>
    rw [List.cons_append, Scan.words, if_pos (blank c (by simp))]
    exact ih fun d member => blank d (List.mem_cons_of_mem _ member)

/-- A word begins like a segment that has just been opened. -/
theorem words_between_cons {c : Char} (visible : isSeparator c = false) (rest : List Char) :
    Scan.words .between (c :: rest) = Scan.words (.plain [] []) (c :: rest) := by
  simp [Scan.words, visible, closePlain]

/-- Whatever words a line spells, these are the words that are read from it. -/
theorem words_of_spells {words : List (List Segment)} {cs : List Char} (spells : Spells words cs) :
    Scan.words .between cs = .ok words := by
  induction spells with
  | @blank gap blank =>
    rw [← List.append_nil gap, words_between_append blank]
    rfl
  | @word gap rest _ _ blank filled alternate ends _ ih =>
    obtain ⟨segment, segments, rfl⟩ := List.exists_cons_of_ne_nil filled
    obtain ⟨c, cs, begins, visible, _⟩ := segment.head_source (alternate.formed segment (by simp))
    have first : sourceOf (segment :: segments) ++ rest = c :: (cs ++ sourceOf segments ++ rest) := by
      simp [sourceOf, begins]
    rw [List.append_assoc, words_between_append blank, first, words_between_cons visible, ← first,
      words_segments ends alternate [] [] (by simp), ih]
    rfl

/-! ## What is read is spelled -/

namespace Scan

/-- What has been read of an unfinished word. -/
def read : Scan → List Char
  | .between => []
  | .plain done chars => sourceOf done.reverse ++ chars.reverse
  | .quoted done chars => sourceOf done.reverse ++ '\'' :: doubleQuotes chars.reverse

/-- The segments read so far take turns with the one that is open. A plain segment that is just
opened holds nothing yet; what comes is no quote then, as that would belong to the quotes before. -/
def Sound : Scan → List Char → Prop
  | .between, _ => True
  | .plain done chars, rest =>
    Alternate done ∧ (∀ segment ∈ done.head?, segment.isQuoted = true) ∧
      (∀ c ∈ chars, isPlainChar c = true) ∧
        (chars = [] → done ≠ [] ∧ rest.head? ≠ some '\'')
  | .quoted done _, _ => Alternate done ∧ ∀ segment ∈ done.head?, segment.isQuoted = false

theorem Sound.close {done : List Segment} {chars rest : List Char}
    (sound : Sound (.plain done chars) rest) :
    Alternate (closePlain done chars) ∧ closePlain done chars ≠ [] ∧
      sourceOf (closePlain done chars).reverse = read (.plain done chars) := by
  obtain ⟨alternate, quoted, plain, opened⟩ := sound
  cases chars with
  | nil => simp [closePlain, alternate, opened, read]
  | cons c chars =>
    have closed : closePlain done (c :: chars) = .plain (c :: chars).reverse :: done := rfl
    rw [closed]
    refine ⟨alternate.cons ⟨by simp, ?_⟩ ?_, List.cons_ne_nil _ _, ?_⟩
    · intro d member
      exact plain d (List.mem_reverse.mp member)
    · intro next member
      simp [quoted next member]
    · simp [sourceOf, read, Segment.source]

/-- An unfinished word that ends here is the first of the words that are spelled. -/
theorem Sound.spells {done : List Segment} {chars rest : List Char} {words : List (List Segment)}
    (sound : Sound (.plain done chars) rest) (ends : EndsWord rest) (spells : Spells words rest) :
    Spells ((closePlain done chars).reverse :: words) (read (.plain done chars) ++ rest) := by
  obtain ⟨alternate, filled, source⟩ := sound.close
  rw [← source]
  exact Spells.word [] (by simp) (by simpa using filled) alternate.reverse ends spells

/-- A scan that comes to the end of the line has found the words that the line spells. -/
theorem spells_of_words {scan : Scan} {cs : List Char} {words : List (List Segment)}
    (found : scan.words cs = .ok words) (sound : scan.Sound cs) : Spells words (scan.read ++ cs) := by
  fun_induction Scan.words scan cs generalizing words with
  | case1 =>
    cases found
    exact .blank (by simp [read])
  | case2 c rest separator ih => exact (ih found trivial).behind separator
  | case3 rest separator ih => exact ih found ⟨alternate_nil, by simp⟩
  | case4 c rest separator quote ih =>
    refine ih found ⟨alternate_nil, by simp, ?_, by simp⟩
    simp [isPlainChar, quote, separator]
  | case5 done chars =>
    cases found
    exact sound.spells endsWord_nil (.blank (by simp))
  | case6 done chars c rest separator ih =>
    cases after : Scan.words .between rest with
    | error fault => simp [after, Except.map] at found
    | ok more =>
      rw [after] at found
      cases found
      have later : Spells more (c :: rest) := (ih after trivial).behind separator
      exact sound.spells (by simp [EndsWord, separator]) later
  | case7 done chars rest separator ih =>
    obtain ⟨alternate, _, source⟩ := sound.close
    -- Right behind a closing quote no other one opens: the two would be a doubled quote.
    have opened : chars ≠ [] := by
      intro empty
      exact (sound.2.2.2 empty).2 rfl
    have plain : ∀ segment ∈ (closePlain done chars).head?, segment.isQuoted = false := by
      simp [closePlain, opened]
    have spelled := ih found ⟨alternate, plain⟩
    simpa [read, source, doubleQuotes] using spelled
  | case8 done chars c rest separator quote ih =>
    obtain ⟨alternate, quoted, plain, _⟩ := sound
    have more : ∀ d ∈ c :: chars, isPlainChar d = true :=
      List.forall_mem_cons.mpr ⟨by simp [isPlainChar, separator, quote], plain⟩
    have spelled := ih found ⟨alternate, quoted, more, by simp⟩
    simpa [read] using spelled
  | case9 done chars => cases found
  | case10 done chars rest ih =>
    have spelled := ih found sound
    simpa [read, doubleQuotes] using spelled
  | case11 done chars rest single ih =>
    obtain ⟨alternate, plain⟩ := sound
    have turned : Alternate (.quoted chars.reverse :: done) := by
      refine alternate.cons trivial ?_
      intro next member
      simp [plain next member]
    have closed : rest.head? ≠ some '\'' := by
      intro quote
      obtain ⟨more, shape⟩ := List.head?_eq_some_iff.mp quote
      exact single more rfl shape
    have spelled := ih found ⟨turned, by simp, by simp, fun _ => ⟨by simp, closed⟩⟩
    simpa [read, sourceOf, Segment.source] using spelled
  | case12 done chars c rest single quote ih =>
    have spelled := ih found sound
    simpa [read, doubleQuotes, quote] using spelled

end Scan

theorem rawWords_eq_ok_iff {line : String} {words : List (List Segment)} :
    rawWords line = .ok words ↔ Spells words line.toList := by
  constructor
  · intro read
    exact Scan.spells_of_words read trivial
  · exact words_of_spells

/-! ## Quotes in pairs -/

/-- The scan stands between quotes. -/
def Scan.isOpen : Scan → Bool
  | .quoted _ _ => true
  | _ => false

theorem fails_map_iff {ε α β : Type} (f : α → β) (result : Except ε α) :
    (∃ fault, result.map f = .error fault) ↔ ∃ fault, result = .error fault := by
  cases result <;> simp [Except.map]

/-- A scan fails if the quotes to come, with the one that is open, are odd in number: a doubled
quote counts as two. -/
theorem words_fails_iff (scan : Scan) (cs : List Char) :
    (∃ fault, scan.words cs = .error fault) ↔ (cs.count '\'' + scan.isOpen.toNat) % 2 = 1 := by
  have unquoted {c : Char} (separator : isSeparator c = true) : c ≠ '\'' := by
    rintro rfl
    exact absurd separator (by decide)
  -- A quote opens or closes, except for a doubled one, and the rest of the line is judged from there.
  fun_induction Scan.words scan cs
  case case1 | case5 | case9 => simp [Scan.isOpen]
  case case2 separator ih =>
    refine ih.trans ?_
    rw [List.count_cons_of_ne (unquoted separator)]
  case case6 separator ih =>
    refine (fails_map_iff _ _).trans (ih.trans ?_)
    rw [List.count_cons_of_ne (unquoted separator)]
    rfl
  case case3 ih | case7 ih =>
    refine ih.trans ?_
    rw [List.count_cons_self]
    rfl
  case case4 quote ih | case8 quote ih | case12 quote ih =>
    refine ih.trans ?_
    rw [List.count_cons_of_ne quote]
    rfl
  case case10 ih =>
    refine ih.trans ?_
    rw [List.count_cons_self, List.count_cons_self]
    simp only [Scan.isOpen, Bool.toNat_true]
    omega
  case case11 ih =>
    refine ih.trans ?_
    rw [List.count_cons_self]
    simp only [Scan.isOpen, Bool.toNat_true, Bool.toNat_false]
    omega

theorem rawWords_fails_iff (line : String) :
    (∃ fault, rawWords line = .error fault) ↔ Odd (line.toList.count '\'') := by
  rw [Nat.odd_iff]
  exact words_fails_iff .between line.toList

/-! ## Expansion -/

/-- What expansion makes of a word: it fills in the plain segments, and what is quoted stands as it
is. -/
structure Made (expand : String → String) (segments : List Segment) (word : Word) : Prop where
  quoted : word.quoted = true ↔ ∃ chars, .quoted chars ∈ segments
  text : word.text = String.join (segments.map fun
    | .plain chars => expand (String.ofList chars)
    | .quoted chars => String.ofList chars)

theorem made_ofSegments (expand : String → String) (segments : List Segment) :
    Made expand segments (Word.ofSegments expand segments) := by
  constructor
  case quoted =>
    rw [Word.ofSegments, List.any_eq_true]
    constructor
    · rintro ⟨segment, member, quoted⟩
      cases segment with
      | plain chars => simp at quoted
      | quoted chars => exact ⟨chars, member⟩
    · rintro ⟨chars, member⟩
      exact ⟨.quoted chars, member, rfl⟩
  case text =>
    have same : Segment.text expand = fun
        | .plain chars => expand (String.ofList chars)
        | .quoted chars => String.ofList chars := by
      funext segment
      cases segment <;> rfl
    rw [Word.ofSegments, same]

/-- How a line is split depends on the line alone. It cannot be split if the number of its quotes is
odd, whatever expansion does. Otherwise there is one way to take the line apart into words and the
separators around them, and under every expansion just these words come out, their plain segments
expanded and their quoted ones as they stand. -/
theorem splitWords_spells (line : String) :
    (∀ expand, (∃ fault, splitWords line expand = .error fault) ↔
        Odd (line.toList.count '\'')) ∧
      (¬ Odd (line.toList.count '\'') →
        ∃ words, (Spells words line.toList ∧ ∀ other, Spells other line.toList → other = words) ∧
          ∀ expand, ∃ split, splitWords line expand = .ok split ∧
            List.Forall₂ (Made expand) words split) := by
  constructor
  · intro expand
    rw [splitWords, fails_map_iff, rawWords_fails_iff]
  · intro even
    cases read : rawWords line with
    | error fault => exact absurd ((rawWords_fails_iff line).mp ⟨fault, read⟩) even
    | ok words =>
      refine ⟨words, ⟨rawWords_eq_ok_iff.mp read, ?_⟩, ?_⟩
      · intro other spells
        have again : rawWords line = .ok other := rawWords_eq_ok_iff.mpr spells
        rw [read] at again
        cases again
        rfl
      · intro expand
        refine ⟨words.map (Word.ofSegments expand), by rw [splitWords, read]; rfl, ?_⟩
        rw [List.forall₂_map_right_iff, List.forall₂_same]
        intro word _
        exact made_ofSegments expand word

/-- A word with quotes inside it, and an empty one behind a tab. -/
theorem splitWords_spells_quoted :
    let line := "a$X'b ''c'd\t''"
    let words : List (List Segment) :=
      [[.plain ['a', '$', 'X'], .quoted ['b', ' ', '\'', 'c'], .plain ['d']], [.quoted []]]
    ¬ Odd (line.toList.count '\'') ∧ Spells words line.toList ∧
      ∀ expand, ∃ split, splitWords line expand = .ok split ∧
        List.Forall₂ (Made expand) words split := by
  intro line words
  have even : ¬ Odd (line.toList.count '\'') := by decide
  obtain ⟨found, ⟨_, only⟩, made⟩ := (splitWords_spells line).2 even
  have read : rawWords line = .ok words := by decide
  have spells : Spells words line.toList := rawWords_eq_ok_iff.mp read
  rw [← only words spells] at made
  exact ⟨even, spells, made⟩

end LineScript.Script
