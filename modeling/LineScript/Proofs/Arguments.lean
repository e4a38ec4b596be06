import Mathlib.Data.List.Forall2
import Mathlib.Data.List.TakeWhile
import LineScript.Builtin.Programs
import LineScript.Proofs.Blanks
import LineScript.Proofs.Splitting

/-!
# Arguments and their pieces
An argument is cut at its spaces and tabs, and what lies between them is stripped of all blanks.
What comes of it is said by `BrokenInto`: the argument is its pieces with blanks around them, and a
separator behind each piece before anything else is seen. That is what happens to each argument, one
after the other (`expandArguments_pieces`).
-/
namespace LineScript.Path

theorem splitAt_of_none {p : Char → Bool} {cs : List Char} (none : ∀ c ∈ cs, p c = false) :
    splitAt p cs = [cs] := by
  induction cs with
  | nil => rfl
  | cons c cs ih =>
    obtain ⟨first, others⟩ := List.forall_mem_cons.mp none
    rw [splitAt, if_neg (by simp [first]), ih others]

theorem splitAt_append {p : Char → Bool} {front : List Char} (none : ∀ c ∈ front, p c = false)
    {c : Char} (cut : p c = true) (rest : List Char) :
    splitAt p (front ++ c :: rest) = front :: splitAt p rest := by
  induction front with
  | nil => rw [List.nil_append, splitAt, if_pos cut]
  | cons d front ih =>
    obtain ⟨first, others⟩ := List.forall_mem_cons.mp none
    rw [List.cons_append, splitAt, if_neg (by simp [first]), ih others]

end LineScript.Path

namespace LineScript.Builtin
open Text Script

/-! ## Texts and their pieces -/

/-- A text that cannot be broken any further: something is left of it when it is stripped, namely
all of it, and it holds no separator. -/
structure IsPiece (piece : String) : Prop where
  filled : piece ≠ ""
  unbroken : ∀ c ∈ piece.toList, isSeparator c = false
  trimmed : Trimmed piece.toList

/-- The text is these pieces with blanks before, between and behind them. Only blanks stand behind a
piece, up to a separator or the end. -/
inductive BrokenInto : List Char → List String → Prop
  | blank {gap : List Char} : (∀ c ∈ gap, isBlank c = true) → BrokenInto gap []
  | piece (before after : List Char) {rest : List Char} {piece : String} {pieces : List String} :
      (∀ c ∈ before, isBlank c = true) → IsPiece piece →
        (∀ c ∈ after, isBlank c = true ∧ isSeparator c = false) → EndsWord rest →
          BrokenInto rest pieces →
            BrokenInto (before ++ piece.toList ++ after ++ rest) (piece :: pieces)

/-- The characters of a text that are no blanks. -/
def visible (text : String) : List Char := text.toList.filter fun c => !isBlank c

theorem blank_of_separator {c : Char} (separator : isSeparator c = true) : isBlank c = true := by
  simp only [isSeparator, Bool.or_eq_true, beq_iff_eq] at separator
  rcases separator with rfl | rfl
  · decide
  · decide

/-- Blanks in front of a text belong to none of its pieces. -/
theorem BrokenInto.behind {gap cs : List Char} {pieces : List String}
    (blank : ∀ c ∈ gap, isBlank c = true) (broken : BrokenInto cs pieces) :
    BrokenInto (gap ++ cs) pieces := by
  have both {more : List Char} (later : ∀ c ∈ more, isBlank c = true) :
      ∀ c ∈ gap ++ more, isBlank c = true := by
    intro c member
    rcases List.mem_append.mp member with before | behind
    · exact blank c before
    · exact later c behind
  cases broken with
  | blank later => exact .blank (both later)
  | piece before after later whole gapped ends rest =>
    simpa using BrokenInto.piece (gap ++ before) after (both later) whole gapped ends rest

theorem BrokenInto.isPiece {cs : List Char} {pieces : List String} (broken : BrokenInto cs pieces) :
    ∀ piece ∈ pieces, IsPiece piece := by
  induction broken with
  | blank => simp
  | piece before after blank whole gapped ends _ ih => exact List.forall_mem_cons.mpr ⟨whole, ih⟩

theorem filter_blank {gap : List Char} (blank : ∀ c ∈ gap, isBlank c = true) :
    gap.filter (fun c => !isBlank c) = [] := by
  rw [List.filter_eq_nil_iff]
  intro c member
  simp [blank c member]

/-- Nothing but blanks is lost when a text is broken. -/
theorem BrokenInto.visible {cs : List Char} {pieces : List String} (broken : BrokenInto cs pieces) :
    visible (String.join pieces) = cs.filter fun c => !isBlank c := by
  induction broken with
  | blank gap => rw [filter_blank gap]; rfl
  | piece before after blank whole gapped ends _ ih =>
    rw [Builtin.visible] at ih ⊢
    rw [String.join_cons, String.toList_append, List.filter_append, ih, List.filter_append,
      List.filter_append, List.filter_append, filter_blank blank,
      filter_blank fun c member => (gapped c member).1]
    simp

theorem IsPiece.brokenInto {piece : String} (whole : IsPiece piece) :
    BrokenInto piece.toList [piece] := by
  simpa using BrokenInto.piece [] [] (by simp) whole (by simp) endsWord_nil (.blank (by simp))

/-! ## Stripping what stands between separators -/

/-- A text is what is left when it is stripped, between blanks. -/
theorem stripped_between (cs : List Char) :
    ∃ before after, cs = before ++ stripChars cs ++ after ∧
      (∀ c ∈ before, isBlank c = true) ∧ ∀ c ∈ after, isBlank c = true := by
  refine ⟨cs.takeWhile isBlank, ((cs.dropWhile isBlank).reverse.takeWhile isBlank).reverse,
    ?_, ?_, ?_⟩
  · rw [stripChars, dropEndWhile, List.append_assoc, ← List.reverse_append,
      List.takeWhile_append_dropWhile, List.reverse_reverse, List.takeWhile_append_dropWhile]
  · intro c member
    exact List.mem_takeWhile_imp member
  · intro c member
    exact List.mem_takeWhile_imp (List.mem_reverse.mp member)

/-- What is left of a text without separators, if it is not blank. -/
def fieldPiece (field : List Char) : List String :=
  if (stripChars field).isEmpty then [] else [String.ofList (stripChars field)]

/-- The pieces of the characters of an argument. -/
def piecesOf (cs : List Char) : List String :=
  ((Path.splitAt isSeparator cs).map stripChars).filterMap fun piece =>
    if piece.isEmpty then none else some (String.ofList piece)

/-- What stands in front of the first separator is stripped by itself. -/
theorem piecesOf_append {field rest : List Char} (unbroken : ∀ c ∈ field, isSeparator c = false)
    (ends : EndsWord rest) : piecesOf (field ++ rest) = fieldPiece field ++ piecesOf rest := by
  have first (more : List (List Char)) :
      ((field :: more).map stripChars).filterMap
          (fun piece => if piece.isEmpty then none else some (String.ofList piece)) =
        fieldPiece field ++ (more.map stripChars).filterMap
          (fun piece => if piece.isEmpty then none else some (String.ofList piece)) := by
    rw [fieldPiece, List.map_cons, List.filterMap_cons]
    cases (stripChars field).isEmpty <;> rfl
  cases rest with
  | nil =>
    rw [List.append_nil, piecesOf, Path.splitAt_of_none unbroken, first]
    rfl
  | cons c rest =>
    have separator : isSeparator c = true := ends c rfl
    rw [piecesOf, Path.splitAt_append unbroken separator, first, piecesOf, Path.splitAt,
      if_pos separator]
    rfl

/-- A text up to its first separator, and what stands from there on. -/
theorem exists_field (cs : List Char) :
    ∃ field rest, cs = field ++ rest ∧ (∀ c ∈ field, isSeparator c = false) ∧ EndsWord rest := by
  refine ⟨cs.takeWhile (!isSeparator ·), cs.dropWhile (!isSeparator ·), ?_, ?_, ?_⟩
  · rw [List.takeWhile_append_dropWhile]
  · intro c member
    simpa using List.mem_takeWhile_imp member
  · intro c member
    simpa using head_dropWhile (!isSeparator ·) cs c member

theorem piecesOf_blank {gap : List Char} (blank : ∀ c ∈ gap, isBlank c = true) (rest : List Char) :
    piecesOf (gap ++ rest) = piecesOf rest := by
  induction gap with
  | nil => rfl
  | cons c gap ih =>
    obtain ⟨first, others⟩ := List.forall_mem_cons.mp blank
    rw [List.cons_append, ← ih others]
    -- A separator makes one empty field more, another blank is stripped off the first field.
    by_cases separator : isSeparator c = true
    · rw [piecesOf, Path.splitAt, if_pos separator]
      rfl
    · obtain ⟨field, behind, shape, unbroken, ends⟩ := exists_field (gap ++ rest)
      have wider : ∀ d ∈ c :: field, isSeparator d = false :=
        List.forall_mem_cons.mpr ⟨by simpa using separator, unbroken⟩
      have same : fieldPiece (c :: field) = fieldPiece field := by
        rw [fieldPiece, fieldPiece, stripChars, List.dropWhile_cons_of_pos first, stripChars]
      rw [shape, ← List.cons_append, piecesOf_append wider ends, same, piecesOf_append unbroken ends]

/-! ## The pieces of an argument -/

/-- What stands in front of the first separator adds its piece, if it is not blank. -/
theorem BrokenInto.field {field rest : List Char} {pieces : List String}
    (broken : BrokenInto rest pieces) (unbroken : ∀ c ∈ field, isSeparator c = false)
    (ends : EndsWord rest) : BrokenInto (field ++ rest) (fieldPiece field ++ pieces) := by
  obtain ⟨before, after, shape, blank, gapped⟩ := stripped_between field
  have trimmed := trimmed_stripChars field
  rw [fieldPiece]
  generalize stripChars field = stripped at shape trimmed ⊢
  subst shape
  cases stripped with
  | nil =>
    have gap : ∀ c ∈ before ++ [] ++ after, isBlank c = true := by
      intro c member
      rw [List.append_nil] at member
      exact (List.mem_append.mp member).elim (blank c) (gapped c)
    exact broken.behind gap
  | cons c cs =>
    have whole : IsPiece (String.ofList (c :: cs)) := by
      constructor
      case filled => simp
      case unbroken =>
        intro d member
        rw [String.toList_ofList] at member
        exact unbroken d (List.mem_append_left _ (List.mem_append_right _ member))
      case trimmed => rwa [String.toList_ofList]
    have plain : ∀ d ∈ after, isBlank d = true ∧ isSeparator d = false := by
      intro d member
      exact ⟨gapped d member, unbroken d (List.mem_append_right _ member)⟩
    have made := BrokenInto.piece before after blank whole plain ends broken
    rwa [String.toList_ofList] at made

/-- A text is cut into pieces that it is broken into. -/
theorem brokenInto_piecesOf (cs : List Char) : BrokenInto cs (piecesOf cs) := by
  obtain ⟨field, rest, shape, unbroken, ends⟩ := exists_field cs
  have later : BrokenInto rest (piecesOf rest) := by
    cases rest with
    | nil => exact .blank (by simp)
    | cons c rest =>
      have blank : ∀ d ∈ [c], isBlank d = true := by
        intro d member
        rw [List.mem_singleton.mp member]
        exact blank_of_separator (ends c rfl)
      rw [← List.singleton_append, piecesOf_blank blank]
      exact (brokenInto_piecesOf rest).behind blank
  rw [shape, piecesOf_append unbroken ends]
  exact later.field unbroken ends
termination_by cs.length
decreasing_by
  simp only [shape, List.length_append, List.length_cons]
  omega

theorem piecesOf_of_brokenInto {cs : List Char} {pieces : List String}
    (broken : BrokenInto cs pieces) : piecesOf cs = pieces := by
  induction broken with
  | @blank gap blank =>
    rw [← List.append_nil gap, piecesOf_blank blank]
    rfl
  | @piece before after rest piece pieces blank whole gapped ends _ ih =>
    have unbroken : ∀ c ∈ piece.toList ++ after, isSeparator c = false := by
      intro c member
      rcases List.mem_append.mp member with inside | behind
      · exact whole.unbroken c inside
      · exact (gapped c behind).2
    have stripped : stripChars (piece.toList ++ after) = piece.toList := by
      rw [stripChars_append _ fun c member => (gapped c member).1, whole.trimmed.stripChars]
    have filled : piece.toList.isEmpty = false := by simpa using whole.filled
    rw [List.append_assoc, List.append_assoc, piecesOf_blank blank, ← List.append_assoc,
      piecesOf_append unbroken ends, ih, fieldPiece, stripped, if_neg (by simp [filled]),
      String.ofList_toList]
    rfl

theorem argumentPieces_eq_iff {arg : String} {pieces : List String} :
    argumentPieces arg = pieces ↔ BrokenInto arg.toList pieces := by
  constructor
  · rintro rfl
    exact brokenInto_piecesOf arg.toList
  · intro broken
    exact piecesOf_of_brokenInto broken

theorem argumentPieces_of_isPiece {piece : String} (whole : IsPiece piece) :
    argumentPieces piece = [piece] := argumentPieces_eq_iff.mpr whole.brokenInto

/-! ## Lists of arguments -/

theorem expandArguments_of_filled {args : List String} (filled : args ≠ []) :
    expandArguments args = .ok (args.flatMap argumentPieces) := by
  rw [expandArguments, if_neg (by simpa using filled)]

theorem expandArguments_fails_iff (args : List String) :
    (∃ fault, expandArguments args = .error fault) ↔ args = [] := by
  constructor
  · rintro ⟨fault, failed⟩
    by_contra filled
    rw [expandArguments_of_filled filled] at failed
    cases failed
  · rintro rfl
    exact ⟨.arguments, rfl⟩

theorem flatMap_argumentPieces {args : List String} (whole : ∀ arg ∈ args, IsPiece arg) :
    args.flatMap argumentPieces = args := by
  induction args with
  | nil => rfl
  | cons arg args ih =>
    obtain ⟨first, others⟩ := List.forall_mem_cons.mp whole
    rw [List.flatMap_cons, argumentPieces_of_isPiece first, ih others]
    rfl

theorem visible_append (first second : String) :
    visible (first ++ second) = visible first ++ visible second := by
  rw [visible, String.toList_append, List.filter_append]
  rfl

/-- Only blanks of the arguments are lost. -/
theorem visible_flatMap (args : List String) :
    visible (String.join (args.flatMap argumentPieces)) = visible (String.join args) := by
  induction args with
  | nil => rfl
  | cons arg args ih =>
    have first : visible (String.join (argumentPieces arg)) = visible arg :=
      (argumentPieces_eq_iff.mp rfl).visible
    rw [List.flatMap_cons, String.join_append, visible_append, first, ih, String.join_cons,
      visible_append]

/-- Arguments are expanded unless there are none. Then each of them is broken into its pieces by
itself, and the pieces stand one behind the other: so they can be broken no further, have the same
visible characters as the arguments, and come from two lists of arguments as from one. Arguments
that are such pieces are left alone, and so is what has been expanded before. -/
theorem expandArguments_pieces (args : List String) :
    ((∃ fault, expandArguments args = .error fault) ↔ args = []) ∧
      (args ≠ [] → ∃ pieces, expandArguments args = .ok pieces ∧
        (∀ piece ∈ pieces, IsPiece piece) ∧
        (∃ parts, List.Forall₂ (fun arg part => BrokenInto arg.toList part) args parts ∧
          pieces = parts.flatten) ∧
        visible (String.join pieces) = visible (String.join args) ∧
        (∀ more, more ≠ [] → ∃ others, expandArguments more = .ok others ∧
          expandArguments (args ++ more) = .ok (pieces ++ others)) ∧
        (pieces ≠ [] → expandArguments pieces = .ok pieces) ∧
        ((∀ arg ∈ args, IsPiece arg) → pieces = args)) := by
  refine ⟨expandArguments_fails_iff args, ?_⟩
  intro filled
  have whole : ∀ piece ∈ args.flatMap argumentPieces, IsPiece piece := by
    intro piece member
    obtain ⟨arg, _, inside⟩ := List.mem_flatMap.mp member
    exact (argumentPieces_eq_iff.mp rfl).isPiece piece inside
  refine ⟨args.flatMap argumentPieces, expandArguments_of_filled filled, whole, ?_,
    visible_flatMap args, ?_, ?_, flatMap_argumentPieces⟩
  · refine ⟨args.map argumentPieces, ?_, List.flatMap_def⟩
    rw [List.forall₂_map_right_iff, List.forall₂_same]
    intro arg _
    exact argumentPieces_eq_iff.mp rfl
  · intro more given
    refine ⟨more.flatMap argumentPieces, expandArguments_of_filled given, ?_⟩
    rw [expandArguments_of_filled (by simp [filled]), List.flatMap_append]
  · intro some
    rw [expandArguments_of_filled some, flatMap_argumentPieces whole]

/-- An argument that other blanks than spaces and tabs stand in, and two that only blanks are. -/
theorem expandArguments_pieces_blank :
    ["a\tb\u00a0c \u2003", "", "\n"] ≠ [] ∧
      expandArguments ["a\tb\u00a0c \u2003", "", "\n"] = .ok ["a", "b\u00a0c"] ∧
      expandArguments ["a", "b\u00a0c"] = .ok ["a", "b\u00a0c"] := by
  have given : ["a\tb\u00a0c \u2003", "", "\n"] ≠ [] := by simp
  have expanded : expandArguments ["a\tb\u00a0c \u2003", "", "\n"] = .ok ["a", "b\u00a0c"] := rfl
  obtain ⟨pieces, found, _, _, _, _, again, _⟩ :=
    (expandArguments_pieces ["a\tb\u00a0c \u2003", "", "\n"]).2 given
  rw [expanded] at found
  cases found
  exact ⟨given, expanded, again (by simp)⟩

end LineScript.Builtin
