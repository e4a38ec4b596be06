import LineScript.Text.Blank
import LineScript.Text.Lines

/-!
# Texts without blanks at their ends
Nothing is stripped from a trimmed text, and trimmed words with spaces between them make a trimmed
text.
-/
namespace LineScript.Text

theorem bne_of_not_mem {x : Char} {cs : List Char} (absent : x ∉ cs) :
    ∀ c ∈ cs, (c != x) = true := by
  intro c member
  have different : c ≠ x := fun same => absent (same ▸ member)
  simpa using different

/-- There is no blank at either end. -/
structure Trimmed (cs : List Char) : Prop where
  start : ∀ c ∈ cs.head?, isBlank c = false
  stop : ∀ c ∈ cs.getLast?, isBlank c = false

theorem dropWhile_of_head {p : Char → Bool} {cs : List Char}
    (start : ∀ c ∈ cs.head?, p c = false) : cs.dropWhile p = cs := by
  cases cs with
  | nil => rfl
  | cons c cs => rw [List.dropWhile_cons, if_neg (by simp [start c (by simp)])]

theorem takeWhile_of_head {p : Char → Bool} {cs : List Char}
    (start : ∀ c ∈ cs.head?, p c = false) : cs.takeWhile p = [] := by
  cases cs with
  | nil => rfl
  | cons c cs => rw [List.takeWhile_cons, if_neg (by simp [start c (by simp)])]

theorem Trimmed.stripChars {cs : List Char} (trimmed : Trimmed cs) : stripChars cs = cs := by
  have back : cs.reverse.dropWhile isBlank = cs.reverse :=
    dropWhile_of_head (by simpa [List.head?_reverse] using trimmed.stop)
  rw [Text.stripChars, dropWhile_of_head trimmed.start, dropEndWhile, back, List.reverse_reverse]

theorem Trimmed.strip {text : String} (trimmed : Trimmed text.toList) : strip text = text := by
  rw [Text.strip, trimmed.stripChars, String.ofList_toList]

theorem head_dropWhile (p : Char → Bool) (cs : List Char) :
    ∀ c ∈ (cs.dropWhile p).head?, p c = false := by
  intro c member
  have stays := List.head?_dropWhile_not p cs
  rw [Option.mem_def.mp member] at stays
  simpa using stays

theorem trimmed_stripChars (cs : List Char) : Trimmed (Text.stripChars cs) where
  start c member := by
    have front : Text.stripChars cs <+: cs.dropWhile isBlank := by
      rw [← List.reverse_suffix, Text.stripChars, dropEndWhile, List.reverse_reverse]
      exact List.dropWhile_suffix _
    obtain ⟨rest, shape⟩ := front
    refine head_dropWhile isBlank cs c ?_
    obtain ⟨later, found⟩ := List.head?_eq_some_iff.mp (Option.mem_def.mp member)
    simp [← shape, found]
  stop c member := by
    rw [Text.stripChars, dropEndWhile, List.getLast?_reverse] at member
    exact head_dropWhile isBlank _ c member

theorem dropEndWhile_append {p : Char → Bool} (cs : List Char) {ends : List Char}
    (dropped : ∀ c ∈ ends, p c = true) : dropEndWhile p (cs ++ ends) = dropEndWhile p cs := by
  rw [dropEndWhile, dropEndWhile, List.reverse_append,
    List.dropWhile_append_of_pos (by simpa using dropped)]

/-- Blanks at the end make no difference to what is left after stripping. -/
theorem stripChars_append (cs : List Char) {ends : List Char}
    (blank : ∀ c ∈ ends, isBlank c = true) : stripChars (cs ++ ends) = stripChars cs := by
  rw [stripChars, stripChars, List.dropWhile_append]
  by_cases empty : (cs.dropWhile isBlank).isEmpty = true
  · have gone : ends.dropWhile isBlank = [] := by
      simpa using @List.dropWhile_append_of_pos _ isBlank ends [] blank
    rw [if_pos empty, List.isEmpty_iff.mp empty, gone]
  · rw [if_neg empty, dropEndWhile_append _ blank]

theorem strip_stripLineEnd (raw : String) : strip (stripLineEnd raw) = strip raw := by
  let p : Char → Bool := fun c => c == '\r' || c == '\n'
  have shape : raw.toList = dropEndWhile p raw.toList ++ (raw.toList.reverse.takeWhile p).reverse := by
    rw [dropEndWhile, ← List.reverse_append, List.takeWhile_append_dropWhile, List.reverse_reverse]
  have blank : ∀ c ∈ (raw.toList.reverse.takeWhile p).reverse, isBlank c = true := by
    intro c member
    have ends : p c = true :=
      List.all_eq_true.mp List.all_takeWhile c (List.mem_reverse.mp member)
    have either : c = '\r' ∨ c = '\n' := by simpa [p] using ends
    rcases either with rfl | rfl
    · decide
    · decide
  rw [strip, strip, shape, stripChars_append _ blank, stripLineEnd, String.toList_ofList]

theorem stripLineEnd_of_trimmed {text : String} (trimmed : Trimmed text.toList) :
    stripLineEnd (text ++ "\n") = text := by
  have stops : ∀ c ∈ text.toList.reverse.head?, (c == '\r' || c == '\n') = false := by
    intro c member
    have visible := trimmed.stop c (by simpa [List.head?_reverse] using member)
    rw [Bool.eq_false_iff]
    intro ends
    have either : c = '\r' ∨ c = '\n' := by simpa using ends
    rcases either with rfl | rfl
    · exact absurd visible (by decide)
    · exact absurd visible (by decide)
  have dropped : ∀ c ∈ "\n".toList, (c == '\r' || c == '\n') = true := by simp
  rw [stripLineEnd, String.toList_append, dropEndWhile_append _ dropped, dropEndWhile,
    dropWhile_of_head stops, List.reverse_reverse, String.ofList_toList]

theorem trimmed_singleton {c : Char} (visible : isBlank c = false) : Trimmed [c] := by
  constructor <;> simpa using visible

theorem trimmed_framed {first last : Char} (begins : isBlank first = false)
    (ends : isBlank last = false) (cs : List Char) : Trimmed (first :: (cs ++ [last])) where
  start := by simpa using begins
  stop := by
    rw [← List.cons_append, List.getLast?_concat]
    simpa using ends

theorem Trimmed.append {first second : List Char} (begins : Trimmed first) (ends : Trimmed second)
    (between : List Char) (nonempty : first ≠ []) (more : second ≠ []) :
    Trimmed (first ++ between ++ second) where
  start c member := by
    obtain ⟨d, ds, shape⟩ := List.exists_cons_of_ne_nil nonempty
    refine begins.start c ?_
    simpa [shape] using member
  stop c member := by
    refine ends.stop c ?_
    cases last : second.getLast? with
    | none => exact absurd (List.getLast?_eq_none_iff.mp last) more
    | some d => simpa [last] using member

/-- Trimmed words make a trimmed text, which begins as the first of them. -/
theorem trimmed_intercalate (word : List Char) (more : List (List Char))
    (trimmed : ∀ other ∈ word :: more, other ≠ [] ∧ Trimmed other) :
    Trimmed ([' '].intercalate (word :: more)) ∧
      ([' '].intercalate (word :: more)).head? = word.head? := by
  induction more generalizing word with
  | nil => simpa using (trimmed word (by simp)).2
  | cons next more ih =>
    obtain ⟨nonempty, first⟩ := trimmed word (by simp)
    obtain ⟨rest, begins⟩ := ih next fun other member => trimmed other (by simp [member])
    have filled : [' '].intercalate (next :: more) ≠ [] := by
      intro empty
      rw [empty] at begins
      have nothing : next = [] := by simpa using begins.symm
      exact (trimmed next (by simp)).1 nothing
    obtain ⟨c, cs, shape⟩ := List.exists_cons_of_ne_nil nonempty
    rw [List.intercalate_cons_cons]
    exact ⟨first.append rest [' '] nonempty filled, by simp [shape]⟩

end LineScript.Text
