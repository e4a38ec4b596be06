import LineScript.Environment
import LineScript.Proofs.Words
import LineScript.Proofs.WrittenLines

/-!
# Lines with the background mark behind them
A line that is read without the mark is read as the same line in the background once the mark
stands behind it (`Line.parse_marked`).
-/
namespace LineScript.Script

/-! ## Words -/

theorem EndsWord.append {rest more : List Char} (ends : EndsWord rest) (later : EndsWord more) :
    EndsWord (rest ++ more) := by
  cases rest with
  | nil => exact later
  | cons c rest => exact ends

/-- A line spells one word more if the mark stands behind it. -/
theorem Spells.marked {words : List (List Segment)} {cs : List Char} (spells : Spells words cs) :
    Spells (words ++ [[.plain ['&']]]) (cs ++ [' ', '&']) := by
  induction spells with
  | @blank gap blank =>
    have mark : Alternate [.plain ['&']] :=
      alternate_nil.cons ⟨by simp, by simp [isPlainChar, isSeparator]⟩ (by simp)
    have wider : ∀ c ∈ gap ++ [' '], isSeparator c = true := by
      intro c member
      rcases List.mem_append.mp member with before | last
      · exact blank c before
      · rw [List.mem_singleton.mp last]
        rfl
    have spelled := Spells.word (gap ++ [' ']) wider (List.cons_ne_nil _ _) mark endsWord_nil
      (.blank (by simp))
    simpa [sourceOf, Segment.source] using spelled
  | word gap blank filled alternate ends _ ih =>
    have spelled := Spells.word gap blank filled alternate (ends.append (endsWord_space ['&'])) ih
    simpa using spelled

theorem splitWords_marked {text : String} {expand : String → String} {words : List Word}
    (kept : expand "&" = "&") (split : splitWords text expand = .ok words) :
    splitWords (text ++ " &") expand = .ok (words ++ [⟨"&", false⟩]) := by
  cases raw : rawWords text with
  | error fault => simp [splitWords, raw, Except.map] at split
  | ok segments =>
    have more : rawWords (text ++ " &") = .ok (segments ++ [[.plain ['&']]]) := by
      rw [rawWords_eq_ok_iff, String.toList_append]
      exact (rawWords_eq_ok_iff.mp raw).marked
    have mark : Word.ofSegments expand [.plain ['&']] = ⟨"&", false⟩ := by
      simp [Word.ofSegments, Segment.text, Segment.isQuoted, kept]
    simp only [splitWords, raw, Except.map] at split
    cases split
    simp [splitWords, more, Except.map, mark]

/-! ## Lines -/

/-- What a line that could be read was taken off its words as. -/
theorem taken_of_ofWords {raw : String} {words : List Word} {line : Line}
    (read : Line.ofWords raw words = .ok line) :
    ∃ afterGuards afterPrefix name args, takeGuards words = .ok (line.guards, afterGuards) ∧
      takePrefix afterGuards = (line.want, afterPrefix) ∧
      takeBackground afterPrefix = (line.background, name :: args) ∧ line.raw = raw ∧
      line.name = name.text ∧ line.args = args.map (·.text) := by
  cases guarded : takeGuards words with
  | error fault => simp [Line.ofWords, guarded, bind, Except.bind] at read
  | ok taken =>
    obtain ⟨guards, afterGuards⟩ := taken
    rcases prefixed : takePrefix afterGuards with ⟨want, afterPrefix⟩
    rcases marked : takeBackground afterPrefix with ⟨background, _ | ⟨name, args⟩⟩
    · simp [Line.ofWords, guarded, prefixed, marked, bind, Except.bind, throw, throwThe,
        MonadExceptOf.throw] at read
    · rw [Line.ofWords_of_taken guarded prefixed marked] at read
      cases read
      exact ⟨afterGuards, afterPrefix, name, args, rfl, prefixed, marked, rfl, rfl, rfl⟩

private theorem takeGuards_concat {words rest : List Word} {guards : List Guard}
    (taken : takeGuards words = .ok (guards, rest)) :
    takeGuards (words ++ [⟨"&", false⟩]) = .ok (guards, rest ++ [⟨"&", false⟩]) := by
  induction words generalizing guards with
  | nil =>
    cases taken
    rfl
  | cons word words ih =>
    rw [List.cons_append]
    rw [takeGuards] at taken ⊢
    by_cases opens : word.opensGuard = true
    · rw [if_pos opens] at taken ⊢
      cases inside : word.guard with
      | error fault => simp [inside, bind, Except.bind] at taken
      | ok guard =>
        cases later : takeGuards words with
        | error fault => simp [inside, later, bind, Except.bind] at taken
        | ok more =>
          obtain ⟨others, remaining⟩ := more
          simp only [inside, later, bind, Except.bind, pure, Except.pure] at taken
          cases taken
          rw [ih later]
          rfl
    · rw [if_neg opens] at taken ⊢
      cases taken
      rfl

private theorem takePrefix_concat {words rest : List Word} {want : Expect}
    (taken : takePrefix words = (want, rest)) :
    takePrefix (words ++ [⟨"&", false⟩]) = (want, rest ++ [⟨"&", false⟩]) := by
  cases words with
  | nil =>
    cases taken
    rfl
  | cons word words =>
    rw [List.cons_append]
    rw [takePrefix] at taken ⊢
    by_cases failure : word.isMark "!" = true
    · rw [if_pos failure] at taken ⊢
      cases taken
      rfl
    · rw [if_neg failure] at taken ⊢
      by_cases any : word.isMark "?" = true
      · rw [if_pos any] at taken ⊢
        cases taken
        rfl
      · rw [if_neg any] at taken ⊢
        cases taken
        rfl

private theorem takeBackground_concat {words rest : List Word}
    (taken : takeBackground words = (false, rest)) :
    takeBackground (words ++ [⟨"&", false⟩]) = (true, rest) := by
  have same : words = rest := by
    unfold takeBackground at taken
    split at taken
    · split at taken
      · cases taken
      · exact congrArg Prod.snd taken
    · exact congrArg Prod.snd taken
  have mark : Word.isMark ⟨"&", false⟩ "&" = true := rfl
  simp [takeBackground, mark, same]

/-- A line in the foreground is the same line in the background if the mark is its last word. -/
theorem Line.ofWords_marked {raw : String} {words : List Word} {line : Line}
    (read : ofWords raw words = .ok line) (foreground : line.background = false) (marked : String) :
    ofWords marked (words ++ [⟨"&", false⟩]) =
      .ok { line with raw := marked, background := true } := by
  obtain ⟨afterGuards, afterPrefix, name, args, guarded, prefixed, unmarked, _, called, given⟩ :=
    taken_of_ofWords read
  rw [foreground] at unmarked
  rw [ofWords_of_taken (takeGuards_concat guarded) (takePrefix_concat prefixed)
    (takeBackground_concat unmarked), called, given]

/-- A line is read from the words of its text, blanks at its ends aside. The text is no comment. -/
theorem Line.words_of_parse {text : String} {line : Line} {expand : String → String}
    (read : parse text expand = .ok (some line)) : line.raw = Text.strip text ∧
      ((Text.strip text).isEmpty || isComment (Text.strip text)) = false ∧
        ∃ words, splitWords line.raw expand = .ok words ∧ ofWords line.raw words = .ok line := by
  rw [parse] at read
  by_cases silent : ((Text.strip text).isEmpty || isComment (Text.strip text)) = true
  · rw [if_pos silent] at read
    cases read
  rw [if_neg silent] at read
  cases split : splitWords (Text.strip text) expand with
  | error fault => simp [split, bind, Except.bind] at read
  | ok words =>
    cases made : ofWords (Text.strip text) words with
    | error fault => simp [split, made, bind, Except.bind, Functor.map, Except.map] at read
    | ok other =>
      simp only [split, made, bind, Except.bind, Functor.map, Except.map] at read
      obtain rfl : other = line := by simpa using read
      obtain ⟨_, _, _, _, _, _, _, raw, _⟩ := taken_of_ofWords made
      rw [raw]
      exact ⟨rfl, by simpa using silent, words, split, made⟩

/-- Where no line is read there is nothing to read: the text is blank or a comment. -/
theorem Line.silent_of_parse {text : String} {expand : String → String}
    (read : parse text expand = .ok none) :
    ((Text.strip text).isEmpty || isComment (Text.strip text)) = true := by
  rw [parse] at read
  by_cases silent : ((Text.strip text).isEmpty || isComment (Text.strip text)) = true
  · exact silent
  rw [if_neg silent] at read
  cases split : splitWords (Text.strip text) expand with
  | error fault => simp [split, bind, Except.bind] at read
  | ok words =>
    cases made : ofWords (Text.strip text) words <;>
      simp [split, made, bind, Except.bind, Functor.map, Except.map] at read

theorem Line.parse_raw {line : Line} {expand : String → String}
    (read : parse line.raw expand = .ok (some line)) :
    Text.Trimmed line.raw.toList ∧ (∃ c cs, line.raw.toList = c :: cs ∧ c ≠ '#') ∧
      ∃ words, splitWords line.raw expand = .ok words ∧ ofWords line.raw words = .ok line := by
  have trimmed := Text.trimmed_stripChars line.raw.toList
  obtain ⟨raw, silent, made⟩ := words_of_parse read
  have same : line.raw.toList = Text.stripChars line.raw.toList := by
    simpa [Text.strip] using congrArg String.toList raw
  rw [← same] at trimmed
  rw [← raw] at silent
  refine ⟨trimmed, ?_, made⟩
  cases shape : line.raw.toList with
  | nil => simp [String.toList_eq_nil_iff.mp shape] at silent
  | cons c cs =>
    refine ⟨c, cs, rfl, ?_⟩
    rintro rfl
    simp [isComment, shape] at silent

/-- A line that is read in the foreground is read in the background with the mark behind it. -/
theorem Line.parse_marked {line : Line} {expand : String → String} (kept : expand "&" = "&")
    (read : parse line.raw expand = .ok (some line)) (foreground : line.background = false) :
    parse (line.raw ++ " &") expand =
      .ok (some { line with raw := line.raw ++ " &", background := true }) := by
  obtain ⟨trimmed, ⟨c, cs, shape, other⟩, words, split, made⟩ := parse_raw read
  have again : Text.Trimmed (line.raw ++ " &").toList := by
    have mark : Text.Trimmed ['&'] := Text.trimmed_singleton (by decide)
    have joined := trimmed.append mark [' '] (by simp [shape]) (by simp)
    simpa using joined
  refine parse_trimmed again ⟨c, cs ++ [' ', '&'], by simp [shape], other⟩
    (splitWords_marked kept split) (ofWords_marked made foreground _)

end LineScript.Script
