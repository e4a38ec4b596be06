import LineScript.Proofs.Guards
import LineScript.Proofs.Words
import LineScript.Script.Print

/-!
# Lines as they are written
A line is read back from the way it is written (`parse_print`), whatever its command and arguments
are, as long as its guards are canonical and stand as plain words. Guards, the prefix and the
background mark are taken off the words one after the other, and each taking stops at a quoted word.
-/
namespace LineScript.Script

/-! ## The words of a written line -/

/-- The prefix as a written word, if there is one. -/
def Expect.written (want : Expect) : List Written := want.marks.map Written.plain

/-- The background mark as a written word, if there is one. -/
def backgroundWritten (background : Bool) : List Written :=
  if background then [.plain "&"] else []

/-- The command and its arguments as written words. -/
def Line.commandWritten (line : Line) : List Written := (line.name :: line.args).map Written.quoted

/-- The words that a line is written with. -/
def Line.written (line : Line) : List Written :=
  line.guards.map (fun guard => .plain guard.print) ++ line.want.written ++ line.commandWritten ++
    backgroundWritten line.background

theorem Line.map_text_written (line : Line) : line.written.map Written.text = line.printedWords := by
  have marks : line.want.written.map Written.text = line.want.marks := by
    simp [Expect.written, Written.text, Function.comp_def]
  have mark : (backgroundWritten line.background).map Written.text =
      if line.background then ["&"] else [] := by
    cases line.background <;> rfl
  simp [Line.written, Line.commandWritten, Line.printedWords, marks, mark, Written.text,
    Function.comp_def]

/-- What holds of the printed guards, the three marks and all quoted words holds of every word. -/
theorem Line.forall_written {line : Line} {holds : Written → Prop}
    (guards : ∀ guard ∈ line.guards, holds (.plain guard.print))
    (marks : ∀ mark ∈ ["!", "?", "&"], holds (.plain mark)) (quoted : ∀ text, holds (.quoted text)) :
    ∀ written ∈ line.written, holds written := by
  intro written member
  simp only [Line.written, List.mem_append] at member
  rcases member with ((inGuards | inPrefix) | inCommand) | inBackground
  · obtain ⟨guard, known, rfl⟩ := List.mem_map.mp inGuards
    exact guards guard known
  · obtain ⟨text, known, rfl⟩ := List.mem_map.mp inPrefix
    refine marks text ?_
    cases shape : line.want <;> simp_all [Expect.marks]
  · obtain ⟨text, known, rfl⟩ := List.mem_map.mp inCommand
    exact quoted text
  · cases shape : line.background <;> simp_all [backgroundWritten]

/-! ## Reading a word at a time -/

/-- Guards are taken up to the first word that opens none. -/
private theorem takeGuards_append {guards : List Guard} {expand : String → String}
    (canonical : ∀ guard ∈ guards, guard.Canonical)
    (kept : ∀ guard ∈ guards, expand guard.print = guard.print) {rest : List Word}
    (closed : ∀ word ∈ rest.head?, word.opensGuard = false) :
    takeGuards (guards.map (fun guard => (Written.plain guard.print).word expand) ++ rest) =
      .ok (guards, rest) := by
  induction guards with
  | nil =>
    cases rest with
    | nil => rfl
    | cons word rest => simp [takeGuards, closed word (by simp)]
  | cons guard guards ih =>
    have read := Guard.parse_body (canonical guard (by simp))
    have later := ih (fun other member => canonical other (by simp [member]))
      (fun other member => kept other (by simp [member]))
    have word : (Written.plain guard.print).word expand = ⟨guard.print, false⟩ := by
      simp [Written.word, kept guard (by simp)]
    have opens : Word.opensGuard ⟨guard.print, false⟩ = true := by
      simp [Word.opensGuard, Guard.toList_print]
    have inside : Word.guard ⟨guard.print, false⟩ = .ok guard := by
      have last : guard.print.toList.getLast? = some ']' := by
        rw [Guard.toList_print, ← List.cons_append, List.getLast?_concat]
      rw [Word.guard, if_pos last, Guard.body_of_print, read]
    rw [List.map_cons, List.cons_append, word, takeGuards, if_pos opens, inside, later]
    rfl

/-- The prefix is taken if a quoted word stands behind it. -/
private theorem takePrefix_append {want : Expect} {expand : String → String}
    (kept : ∀ mark ∈ ["!", "?", "&"], expand mark = mark) (word : Word) (quoted : word.quoted = true)
    (rest : List Word) :
    takePrefix (want.written.map (Written.word expand) ++ word :: rest) = (want, word :: rest) := by
  cases want with
  | success => simp [Expect.written, Expect.marks, takePrefix, Word.isMark, quoted]
  | failure =>
    simp [Expect.written, Expect.marks, takePrefix, Word.isMark, Written.word, kept "!" (by simp)]
  | any =>
    simp [Expect.written, Expect.marks, takePrefix, Word.isMark, Written.word, kept "?" (by simp)]

/-- The background mark is taken if a quoted word stands before it. -/
private theorem takeBackground_append {expand : String → String}
    (kept : ∀ mark ∈ ["!", "?", "&"], expand mark = mark) (background : Bool) {words : List Word}
    (quoted : ∀ word ∈ words, word.quoted = true) :
    takeBackground (words ++ (backgroundWritten background).map (Written.word expand)) =
      (background, words) := by
  cases background with
  | false =>
    cases last : words.getLast? with
    | none => simp [backgroundWritten, takeBackground, last]
    | some word =>
      have unmarked : word.isMark "&" = false := by
        simp [Word.isMark, quoted word (List.mem_of_getLast? last)]
      simp [backgroundWritten, takeBackground, last, unmarked]
  | true =>
    simp [backgroundWritten, takeBackground, Written.word, Word.isMark, kept "&" (by simp)]

theorem Line.ofWords_of_taken {raw : String} {words afterGuards afterPrefix : List Word}
    {guards : List Guard} {want : Expect} {background : Bool} {name : Word} {args : List Word}
    (guarded : takeGuards words = .ok (guards, afterGuards))
    (prefixed : takePrefix afterGuards = (want, afterPrefix))
    (marked : takeBackground afterPrefix = (background, name :: args)) :
    Line.ofWords raw words =
      .ok { raw, name := name.text, args := args.map (·.text), guards, want, background } := by
  simp [Line.ofWords, guarded, prefixed, marked, bind, Except.bind, pure, Except.pure]

private theorem ofWords_written {line : Line} {expand : String → String} (raw : String)
    (canonical : ∀ guard ∈ line.guards, guard.Canonical)
    (keptGuards : ∀ guard ∈ line.guards, expand guard.print = guard.print)
    (keptMarks : ∀ mark ∈ ["!", "?", "&"], expand mark = mark) :
    Line.ofWords raw (line.written.map (Written.word expand)) = .ok { line with raw := raw } := by
  let command : List Word := (line.name :: line.args).map (⟨·, true⟩)
  let background := (backgroundWritten line.background).map (Written.word expand)
  let afterGuards := line.want.written.map (Written.word expand) ++ (command ++ background)
  have words : line.written.map (Written.word expand) =
      line.guards.map (fun guard => (Written.plain guard.print).word expand) ++ afterGuards := by
    simp [Line.written, Line.commandWritten, afterGuards, command, background, Written.word,
      Function.comp_def]
  have closed : ∀ word ∈ afterGuards.head?, word.opensGuard = false := by
    intro word first
    cases want : line.want with
    | success =>
      have same : ⟨line.name, true⟩ = word := by
        simpa [afterGuards, want, Expect.written, Expect.marks, command] using first
      rw [← same]
      rfl
    | failure =>
      have same : ⟨"!", false⟩ = word := by
        simpa [afterGuards, want, Expect.written, Expect.marks, Written.word, keptMarks] using first
      rw [← same]
      rfl
    | any =>
      have same : ⟨"?", false⟩ = word := by
        simpa [afterGuards, want, Expect.written, Expect.marks, Written.word, keptMarks] using first
      rw [← same]
      rfl
  have guarded := takeGuards_append canonical keptGuards closed
  have prefixed : takePrefix afterGuards = (line.want, command ++ background) :=
    takePrefix_append keptMarks ⟨line.name, true⟩ rfl _
  have marked : takeBackground (command ++ background) = (line.background, command) := by
    refine takeBackground_append keptMarks line.background ?_
    intro word member
    obtain ⟨text, _, rfl⟩ := List.mem_map.mp member
    rfl
  rw [words, Line.ofWords_of_taken guarded prefixed marked]
  simp [Function.comp_def]

/-! ## The round trip -/

private theorem trimmed_written {line : Line} :
    ∀ written ∈ line.written, written.text.toList ≠ [] ∧ Text.Trimmed written.text.toList := by
  refine Line.forall_written ?_ ?_ ?_
  · intro guard _
    rw [Written.text, Guard.toList_print]
    exact ⟨by simp, Text.trimmed_framed (by decide) (by decide) _⟩
  · intro mark member
    simp only [List.mem_cons, List.not_mem_nil, or_false] at member
    rcases member with rfl | rfl | rfl
    · exact ⟨by decide, Text.trimmed_singleton (c := '!') (by decide)⟩
    · exact ⟨by decide, Text.trimmed_singleton (c := '?') (by decide)⟩
    · exact ⟨by decide, Text.trimmed_singleton (c := '&') (by decide)⟩
  · intro text
    rw [Written.text, toList_quoteWord]
    exact ⟨by simp, Text.trimmed_framed (by decide) (by decide) _⟩

private theorem head_written {line : Line} :
    ∀ written ∈ line.written, written.text.toList.head? ≠ some '#' := by
  refine Line.forall_written ?_ ?_ ?_
  · intro guard _
    simp [Written.text, Guard.toList_print]
  · simp [Written.text]
  · intro text
    simp [Written.text, toList_quoteWord]

private theorem formed_written {line : Line}
    (plain : ∀ guard ∈ line.guards, ∀ c ∈ guard.print.toList, isPlainChar c = true) :
    ∀ written ∈ line.written, written.WellFormed := by
  refine Line.forall_written ?_ ?_ ?_
  · intro guard known
    refine ⟨?_, plain guard known⟩
    intro empty
    have nothing := Guard.toList_print guard
    simp [empty] at nothing
  · simp [Written.WellFormed, isPlainChar, isSeparator]
  · intro text
    trivial

/-- A written line is trimmed, and it is neither empty nor a comment. -/
private theorem toList_print (line : Line) :
    Text.Trimmed line.print.toList ∧ ∃ c cs, line.print.toList = c :: cs ∧ c ≠ '#' := by
  have nonempty : line.written ≠ [] := by simp [Line.written, Line.commandWritten]
  obtain ⟨written, more, shape⟩ := List.exists_cons_of_ne_nil nonempty
  have first : written ∈ line.written := by simp [shape]
  have shown : line.print.toList =
      [' '].intercalate (written.text.toList :: more.map (·.text.toList)) := by
    rw [Line.print, ← Line.map_text_written, shape, String.toList_intercalate]
    simp [Function.comp_def]
  obtain ⟨trimmed, begins⟩ := Text.trimmed_intercalate written.text.toList
    (more.map (·.text.toList)) <| by
      intro other member
      rcases List.mem_cons.mp member with rfl | later
      · exact trimmed_written written first
      · obtain ⟨next, known, rfl⟩ := List.mem_map.mp later
        have among : next ∈ line.written := by simp [shape, known]
        exact trimmed_written next among
  obtain ⟨c, cs, opened⟩ := List.exists_cons_of_ne_nil (trimmed_written written first).1
  rw [← shown] at trimmed begins
  rw [opened] at begins
  obtain ⟨rest, whole⟩ := List.head?_eq_some_iff.mp begins
  refine ⟨trimmed, c, rest, whole, ?_⟩
  intro comment
  exact head_written written first (by simp [opened, comment])

/-- A trimmed text that is neither empty nor a comment is read by its words. -/
theorem Line.parse_trimmed {text : String} {expand : String → String} {words : List Word}
    {line : Line} (trimmed : Text.Trimmed text.toList)
    (visible : ∃ c cs, text.toList = c :: cs ∧ c ≠ '#') (split : splitWords text expand = .ok words)
    (read : Line.ofWords text words = .ok line) : Line.parse text expand = .ok (some line) := by
  obtain ⟨c, cs, shape, other⟩ := visible
  have filled : text.isEmpty = false := by
    rw [← Bool.not_eq_true, String.isEmpty_iff]
    intro empty
    rw [empty] at shape
    exact absurd shape (by simp)
  have command : isComment text = false := by simp [isComment, shape, other]
  simp [Line.parse, trimmed.strip, filled, command, split, read, bind, Except.bind, Functor.map,
    Except.map]

/-- A line of words without references is read from its words, whatever the environment holds. -/
theorem Line.parse_plain {text : String} {first last : Char} {cs : List Char}
    (shape : text.toList = first :: (cs ++ [last])) (begins : Text.isBlank first = false)
    (ends : Text.isBlank last = false) (visible : first ≠ '#') {words : List (List Segment)}
    (split : rawWords text = .ok words)
    (plain : ∀ segments ∈ words, ∀ chars, .plain chars ∈ segments → '$' ∉ chars) {line : Line}
    (read : Line.ofWords text (words.map (Word.ofSegments id)) = .ok line) (env : Environment) :
    Line.parse text env.expand = .ok (some line) := by
  have trimmed : Text.Trimmed text.toList := shape ▸ Text.trimmed_framed begins ends cs
  exact parse_trimmed trimmed ⟨first, _, shape, visible⟩ (splitWords_of_plain split plain env) read

/-- What is read from a line as it is written is the line, whatever expansion does to other words
than its guards and marks. -/
theorem Line.parse_print (line : Line) (expand : String → String)
    (canonical : ∀ guard ∈ line.guards, guard.Canonical)
    (plain : ∀ guard ∈ line.guards, ∀ c ∈ guard.print.toList, isPlainChar c = true)
    (keptGuards : ∀ guard ∈ line.guards, expand guard.print = guard.print)
    (keptMarks : ∀ mark ∈ ["!", "?", "&"], expand mark = mark) :
    Line.parse line.print expand = .ok (some { line with raw := line.print }) := by
  obtain ⟨trimmed, visible⟩ := toList_print line
  have split : splitWords line.print expand = .ok (line.written.map (Written.word expand)) := by
    rw [Line.print, ← Line.map_text_written]
    exact splitWords_written line.written (formed_written plain) expand
  exact Line.parse_trimmed trimmed visible split
    (ofWords_written line.print canonical keptGuards keptMarks)

/-- Arguments that look like marks, comments and references come back as they are. -/
theorem Line.parse_print_marks :
    let guard : Guard := ⟨"exec", "a:b]", true, true⟩
    let line : Line := ⟨"", "[x]", ["&", "it's", "", "# $HOME", "'"], [guard], .failure, true⟩
    let expand := fun text => if text = "$HOME" then "&" else text
    guard.Canonical ∧ Line.parse line.print expand = .ok (some { line with raw := line.print }) := by
  intro guard line expand
  have canonical : guard.Canonical :=
    ⟨by decide, by decide, by simp [guard]; decide, by decide, by decide, by simp [guard]; decide⟩
  have plain : ∀ c ∈ guard.print.toList, isPlainChar c = true := List.all_eq_true.mp (by decide)
  refine ⟨canonical, Line.parse_print line expand ?_ ?_ (by decide) (by decide)⟩
  · simpa [line] using canonical
  · simpa [line] using plain

end LineScript.Script
