import LineScript.Text.Blank

/-!
# Lines
A text is cut into lines after each line feed. Files read as text take a carriage return, with or
without a line feed after it, for a line feed.
-/
namespace LineScript.Text

/-- Cuts a list after each member that satisfies `isEnd`; no piece is empty. -/
def cutAfter {α : Type} (isEnd : α → Bool) : List α → List (List α)
  | [] => []
  | x :: xs =>
    if isEnd x then [x] :: cutAfter isEnd xs
    else match cutAfter isEnd xs with
      | [] => [[x]]
      | piece :: pieces => (x :: piece) :: pieces

/-- The lines of a text, each with its line feed if it has one. -/
def lines (text : String) : List String :=
  (cutAfter (· == '\n') text.toList).map String.ofList

/-- The line without the carriage returns and line feeds at its end. -/
def stripLineEnd (line : String) : String :=
  String.ofList (dropEndWhile (fun c => c == '\r' || c == '\n') line.toList)

/-- Every line end becomes one line feed. -/
def unifyLineEnds : List Char → List Char
  | [] => []
  | '\r' :: '\n' :: rest => '\n' :: unifyLineEnds rest
  | '\r' :: rest => '\n' :: unifyLineEnds rest
  | c :: rest => c :: unifyLineEnds rest

/-- The text does not end in a line feed. -/
def lacksLineFeed (text : String) : Bool := text.toList.getLast? != some '\n'

/-- The text with a line feed at its end, added only where it is missing. -/
def withLineFeed (text : String) : String :=
  if lacksLineFeed text then text ++ "\n" else text

theorem withLineFeed_ended (text : String) : ∃ lines, withLineFeed text = lines ++ "\n" := by
  unfold withLineFeed
  by_cases lacks : lacksLineFeed text = true
  · rw [if_pos lacks]
    exact ⟨text, rfl⟩
  · rw [if_neg lacks]
    have last : text.toList.getLast? = some '\n' := by simpa [lacksLineFeed] using lacks
    obtain ⟨before, shape⟩ := List.getLast?_eq_some_iff.mp last
    refine ⟨String.ofList before, ?_⟩
    rw [← @String.ofList_toList text, shape, String.ofList_append]

end LineScript.Text
