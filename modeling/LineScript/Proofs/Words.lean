import LineScript.Environment
import LineScript.Proofs.Splitting

/-!
# Written words
A line put together from plain and quoted words, one space between them, is split into exactly these
words (`splitWords_written`): it spells them. Words without references are the same under every
environment (`splitWords_of_plain`).
-/
namespace LineScript.Script

/-- A word as it is written in a line: as it stands, or between quotes. -/
inductive Written where
  | plain (word : String)
  | quoted (text : String)

namespace Written

/-- The characters of the line that write the word. -/
def text : Written → String
  | .plain word => word
  | .quoted text => quoteWord text

/-- A plain word can be written if it is not empty and holds plain characters only. -/
def WellFormed : Written → Prop
  | .plain word => word ≠ "" ∧ ∀ c ∈ word.toList, isPlainChar c = true
  | .quoted _ => True

/-- The segments that the word is read as. -/
def segments : Written → List Segment
  | .plain word => [.plain word.toList]
  | .quoted text => [.quoted text.toList]

/-- The word after expansion. -/
def word (expand : String → String) : Written → Word
  | .plain word => ⟨expand word, false⟩
  | .quoted text => ⟨text, true⟩

theorem ofSegments_segments (expand : String → String) (written : Written) :
    Word.ofSegments expand written.segments = written.word expand := by
  cases written <;> simp [segments, word, Word.ofSegments, Segment.text, Segment.isQuoted]

end Written

/-! ## Lines of written words -/

theorem toList_quoteWord (text : String) :
    (quoteWord text).toList = '\'' :: (doubleQuotes text.toList ++ ['\'']) := by
  simp [quoteWord, doubleQuotes]

private theorem source_written (written : Written) (formed : written.WellFormed) :
    written.segments ≠ [] ∧ Alternate written.segments ∧
      sourceOf written.segments = written.text.toList := by
  cases written with
  | plain word =>
    obtain ⟨nonempty, plain⟩ := formed
    have filled : word.toList ≠ [] := fun empty => nonempty (String.toList_eq_nil_iff.mp empty)
    refine ⟨List.cons_ne_nil _ _, alternate_nil.cons ⟨filled, plain⟩ (by simp), ?_⟩
    simp [sourceOf, Segment.source, Written.segments, Written.text]
  | quoted text =>
    refine ⟨List.cons_ne_nil _ _, alternate_nil.cons trivial (by simp), ?_⟩
    simp [sourceOf, Segment.source, Written.segments, Written.text, toList_quoteWord]

private theorem spells_written (words : List Written)
    (formed : ∀ written ∈ words, written.WellFormed) :
    Spells (words.map Written.segments) ([' '].intercalate (words.map (·.text.toList))) := by
  induction words with
  | nil => exact .blank (by simp)
  | cons written more ih =>
    obtain ⟨first, others⟩ := List.forall_mem_cons.mp formed
    obtain ⟨filled, alternate, source⟩ := source_written written first
    cases more with
    | nil =>
      have spelled := Spells.word [] (by simp) filled alternate endsWord_nil (ih others)
      simpa [source] using spelled
    | cons next more =>
      have later := (ih others).behind (c := ' ') rfl
      have spelled := Spells.word [] (by simp) filled alternate (endsWord_space _) later
      rw [source] at spelled
      simpa [List.intercalate_cons_cons] using spelled

/-- A line of written words, one space between them, is split into just these words. -/
theorem splitWords_written (words : List Written) (formed : ∀ written ∈ words, written.WellFormed)
    (expand : String → String) :
    splitWords (" ".intercalate (words.map Written.text)) expand =
      .ok (words.map (Written.word expand)) := by
  have raw : rawWords (" ".intercalate (words.map Written.text)) =
      .ok (words.map Written.segments) := by
    rw [rawWords_eq_ok_iff, String.toList_intercalate, List.map_map]
    exact spells_written words formed
  rw [splitWords, raw]
  simp [Except.map, Written.ofSegments_segments]

/-! ## Words without references -/

theorem Word.ofSegments_of_plain {segments : List Segment}
    (plain : ∀ chars, .plain chars ∈ segments → '$' ∉ chars) (env : Environment) :
    Word.ofSegments env.expand segments = Word.ofSegments id segments := by
  have same : segments.map (Segment.text env.expand) = segments.map (Segment.text id) := by
    refine List.map_congr_left fun segment member => ?_
    cases segment with
    | plain chars => exact env.expand_of_plain (by simpa using plain chars member)
    | quoted chars => rfl
  rw [Word.ofSegments, Word.ofSegments, same]

theorem splitWords_of_plain {raw : String} {words : List (List Segment)}
    (read : rawWords raw = .ok words)
    (plain : ∀ segments ∈ words, ∀ chars, .plain chars ∈ segments → '$' ∉ chars)
    (env : Environment) :
    splitWords raw env.expand = .ok (words.map (Word.ofSegments id)) := by
  have same : words.map (Word.ofSegments env.expand) = words.map (Word.ofSegments id) :=
    List.map_congr_left fun segments member => Word.ofSegments_of_plain (plain segments member) env
  simp only [splitWords, read, Except.map, same]

end LineScript.Script
