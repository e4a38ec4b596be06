import LineScript.Execution
import LineScript.Proofs.Decoding

/-!
# Spellings of a script
An execution sees the lines of a script without their line ends. It sees the same lines whether the
script comes in as bytes or as the text that the bytes are read as, whichever of its lines end in a
carriage return besides, and whether its last line is ended or not (`Source.alike_spellings`).
-/
namespace LineScript.Text

/-! ## Cutting -/

section
variable {α : Type} {isEnd : α → Bool}

theorem cutAfter_append {piece : List α} (inside : ∀ x ∈ piece, isEnd x = false) {stop : α}
    (ends : isEnd stop = true) (rest : List α) :
    cutAfter isEnd (piece ++ stop :: rest) = (piece ++ [stop]) :: cutAfter isEnd rest := by
  induction piece with
  | nil => rw [List.nil_append, cutAfter, if_pos ends, List.nil_append]
  | cons x piece ih =>
    have first : isEnd x = false := inside x (by simp)
    rw [List.cons_append, cutAfter, if_neg (by simp [first]),
      ih fun y member => inside y (List.mem_cons_of_mem _ member)]
    rfl

theorem cutAfter_piece {piece : List α} (inside : ∀ x ∈ piece, isEnd x = false)
    (some : piece ≠ []) :
    cutAfter isEnd piece = [piece] := by
  induction piece with
  | nil => exact absurd rfl some
  | cons x piece ih =>
    have first : isEnd x = false := inside x (by simp)
    rw [cutAfter, if_neg (by simp [first])]
    cases piece with
    | nil => rfl
    | cons y piece =>
      rw [ih (fun z member => inside z (List.mem_cons_of_mem _ member)) (by simp)]

variable (isEnd)

/-- Every list either has no end or is cut behind the first one in it. -/
theorem cut_induction {motive : List α → Prop}
    (piece : ∀ piece, (∀ x ∈ piece, isEnd x = false) → motive piece)
    (append : ∀ piece stop rest, (∀ x ∈ piece, isEnd x = false) → isEnd stop = true → motive rest →
      motive (piece ++ stop :: rest)) (xs : List α) : motive xs := by
  suffices all : ∀ begun, (∀ x ∈ begun, isEnd x = false) → motive (begun ++ xs) from
    all [] (by simp)
  induction xs with
  | nil =>
    intro begun inside
    rw [List.append_nil]
    exact piece begun inside
  | cons x xs ih =>
    intro begun inside
    cases ends : isEnd x with
    | true => exact append begun x xs inside ends (ih [] (by simp))
    | false =>
      have longer := ih (begun ++ [x]) fun y member => by
        rcases List.mem_append.mp member with early | last
        · exact inside y early
        · rwa [List.mem_singleton.mp last]
      rwa [List.append_assoc] at longer

/-- The pieces of a list and what is open behind them: whatever comes next without an end goes on
with the open piece, up to the next end. -/
theorem cutAfter_open (xs : List α) : ∃ pieces begun, ∀ tail, (∀ x ∈ tail, isEnd x = false) →
    (∀ stop rest, isEnd stop = true → cutAfter isEnd (xs ++ (tail ++ stop :: rest)) =
      pieces ++ (begun ++ (tail ++ [stop])) :: cutAfter isEnd rest) ∧
    (tail ≠ [] → cutAfter isEnd (xs ++ tail) = pieces ++ [begun ++ tail]) := by
  induction xs using cut_induction isEnd with
  | piece xs inside =>
    refine ⟨[], xs, fun tail more => ?_⟩
    have whole : ∀ x ∈ xs ++ tail, isEnd x = false := fun x member =>
      (List.mem_append.mp member).elim (inside x) (more x)
    constructor
    · intro stop rest ends
      rw [← List.append_assoc, cutAfter_append whole ends, ← List.append_assoc]
      rfl
    · intro some
      exact cutAfter_piece whole (by simp [some])
  | append piece stop rest inside ends ih =>
    obtain ⟨pieces, begun, opened⟩ := ih
    refine ⟨(piece ++ [stop]) :: pieces, begun, fun tail more => ?_⟩
    obtain ⟨closes, goes⟩ := opened tail more
    constructor
    · intro last after lasts
      rw [List.append_assoc, List.cons_append, cutAfter_append inside ends,
        closes last after lasts]
      rfl
    · intro some
      rw [List.append_assoc, List.cons_append, cutAfter_append inside ends, goes some]
      rfl

section
variable {β : Type} {f : List α → β} {stop : α} (ends : isEnd stop = true)
include ends

/-- A member in front of an end is of no matter if it is of none at the end of a piece. -/
theorem map_cutAfter_before_end {inner : α} (inside : isEnd inner = false)
    (same : ∀ begun, f (begun ++ [inner, stop]) = f (begun ++ [stop])) (xs rest : List α) :
    (cutAfter isEnd (xs ++ inner :: stop :: rest)).map f =
      (cutAfter isEnd (xs ++ stop :: rest)).map f := by
  obtain ⟨pieces, begun, opened⟩ := cutAfter_open isEnd xs
  have long := (opened [inner] (by simpa using inside)).1 stop rest ends
  have short := (opened [] (by simp)).1 stop rest ends
  rw [List.singleton_append, List.singleton_append] at long
  rw [List.nil_append, List.nil_append] at short
  rw [long, short, List.map_append, List.map_append, List.map_cons, List.map_cons, same]

/-- Nor is an end behind a last member that is none, if the end of a piece is of no matter. -/
theorem map_cutAfter_ended (same : ∀ begun, f (begun ++ [stop]) = f begun) {xs : List α}
    (some : xs ≠ []) (unended : isEnd (xs.getLast some) = false) :
    (cutAfter isEnd (xs ++ [stop])).map f = (cutAfter isEnd xs).map f := by
  have shape := List.dropLast_concat_getLast some
  generalize xs.getLast some = last at unended shape
  obtain ⟨pieces, begun, opened⟩ := cutAfter_open isEnd xs.dropLast
  obtain ⟨closes, goes⟩ := opened [last] (by simpa using unended)
  have ended := closes stop [] ends
  have unfinished := goes (by simp)
  rw [← List.append_assoc, shape, ← List.append_assoc begun] at ended
  rw [shape] at unfinished
  rw [ended, unfinished, List.map_append, List.map_append, List.map_cons, List.map_cons, same]
  rfl

end

end

/-! ## Line ends -/

/-- What is stripped from the end of a line makes no difference to the rest. -/
theorem stripLineEnd_append (cs : List Char) {ends : List Char}
    (all : ∀ c ∈ ends, c = '\r' ∨ c = '\n') :
    stripLineEnd (String.ofList (cs ++ ends)) = stripLineEnd (String.ofList cs) := by
  have stripped : ∀ c ∈ ends.reverse, (c == '\r' || c == '\n') = true := by
    intro c member
    simpa using all c (List.mem_reverse.mp member)
  simp only [stripLineEnd, dropEndWhile, String.toList_ofList, List.reverse_append,
    List.dropWhile_append_of_pos stripped]

/-- Bytes are cut into lines as the text is that they are read as. -/
theorem cutAfter_decodeChars (bytes : List UInt8) :
    cutAfter (· == '\n') (Utf8.decodeChars bytes) =
      (cutAfter (· == (0x0a : UInt8)) bytes).map Utf8.decodeChars := by
  have without {piece : List UInt8} (inside : ∀ b ∈ piece, (b == 0x0a) = false) :
      ∀ c ∈ Utf8.decodeChars piece, (c == '\n') = false := by
    have nowhere : '\n' ∉ Utf8.decodeChars piece :=
      Utf8.lineFeed_decodeFrom Utf8.sound_none fun member => by simpa using inside _ member
    intro c member
    rw [beq_eq_false_iff_ne]
    rintro rfl
    exact nowhere member
  induction bytes using cut_induction (· == (0x0a : UInt8)) with
  | piece piece inside =>
    cases piece with
    | nil => rfl
    | cons b rest =>
      rw [cutAfter_piece inside (by simp),
        cutAfter_piece (without inside) (Utf8.decodeChars_ne_nil (by simp))]
      rfl
  | append piece stop rest inside ends ih =>
    obtain rfl : stop = 0x0a := by simpa using ends
    rw [Utf8.decodeChars_append_ascii piece (by decide) rest,
      cutAfter_append (without inside) (by rfl), ih, cutAfter_append inside (by rfl), List.map_cons,
      Utf8.decodeChars_concat_lineFeed]
    rfl

end LineScript.Text

namespace LineScript.Source

/-- The lines of a source as an execution sees them. -/
def seen (source : Source) : List String := source.lines.map Text.stripLineEnd

/-- Two sources that an execution cannot tell apart. -/
def Alike (source other : Source) : Prop :=
  source.seen = other.seen ∧ source.failure = other.failure

theorem Alike.of_seen {source other : Source} (whole : source.failure = none)
    (entire : other.failure = none) (seen : source.seen = other.seen) : source.Alike other :=
  ⟨seen, whole.trans entire.symm⟩

/-- Bytes hand out the very lines of the text that they are read as. -/
theorem ofBytes_eq (bytes : List UInt8) : ofBytes bytes = ofText (Text.Utf8.decode bytes) := by
  rw [ofBytes, ofText, Text.lines, Text.Utf8.decode, String.toList_ofList,
    Text.cutAfter_decodeChars, List.map_map]
  rfl

theorem seen_ofText (cs : List Char) : (ofText (String.ofList cs)).seen =
    (Text.cutAfter (· == '\n') cs).map fun line => Text.stripLineEnd (String.ofList line) := by
  rw [seen, ofText, ofLines, Text.lines, String.toList_ofList, List.map_map]
  rfl

/-- A carriage return in front of a line feed is not seen. -/
theorem seen_ofText_crlf (before after : List Char) :
    (ofText (String.ofList (before ++ '\r' :: '\n' :: after))).seen =
      (ofText (String.ofList (before ++ '\n' :: after))).seen := by
  rw [seen_ofText, seen_ofText]
  refine Text.map_cutAfter_before_end (· == '\n') rfl (by decide) (fun line => ?_) before after
  rw [Text.stripLineEnd_append line (by simp), Text.stripLineEnd_append line (by simp)]

/-- Nor is a line feed behind the last line. -/
theorem seen_ofText_ended {cs : List Char} (some : cs ≠ []) (unended : cs.getLast some ≠ '\n') :
    (ofText (String.ofList (cs ++ ['\n']))).seen = (ofText (String.ofList cs)).seen := by
  rw [seen_ofText, seen_ofText]
  refine Text.map_cutAfter_ended (· == '\n') rfl (fun line => ?_) some (by simpa using unended)
  exact Text.stripLineEnd_append line (by simp)

theorem seen_ofBytes (bytes : List UInt8) : (ofBytes bytes).seen =
    (Text.cutAfter (· == (0x0a : UInt8)) bytes).map fun line =>
      Text.stripLineEnd (Text.Utf8.decode line) := by
  rw [seen, ofBytes, ofLines, List.map_map]
  rfl

theorem seen_ofBytes_crlf (before after : List UInt8) :
    (ofBytes (before ++ 0x0d :: 0x0a :: after)).seen =
      (ofBytes (before ++ 0x0a :: after)).seen := by
  have read (line : List UInt8) : Text.Utf8.decodeChars (line ++ [0x0d, 0x0a]) =
      Text.Utf8.decodeChars line ++ ['\r', '\n'] :=
    Text.Utf8.decodeChars_append_ascii line (by decide) [0x0a]
  rw [seen_ofBytes, seen_ofBytes]
  refine Text.map_cutAfter_before_end (· == 0x0a) rfl (by decide) (fun line => ?_) before after
  rw [Text.Utf8.decode, Text.Utf8.decode, read, Text.Utf8.decodeChars_concat_lineFeed,
    Text.stripLineEnd_append _ (by simp), Text.stripLineEnd_append _ (by simp)]

theorem seen_ofBytes_ended {bytes : List UInt8} (some : bytes ≠ [])
    (unended : bytes.getLast some ≠ 0x0a) :
    (ofBytes (bytes ++ [0x0a])).seen = (ofBytes bytes).seen := by
  rw [seen_ofBytes, seen_ofBytes]
  refine Text.map_cutAfter_ended (· == 0x0a) rfl (fun line => ?_) some (by simpa using unended)
  rw [Text.Utf8.decode, Text.Utf8.decodeChars_concat_lineFeed]
  exact Text.stripLineEnd_append _ (by simp)

end Source

/-! ## Executions -/

namespace Engine

theorem step_of_stripLineEnd (engine : Engine) {raw other : String}
    (same : Text.stripLineEnd raw = Text.stripLineEnd other) (state : State) :
    engine.step raw state = engine.step other state := by
  rw [step, step, same]

theorem runLines_of_stripLineEnd (engine : Engine) (name : String) (count : Nat)
    {lines others : List String}
    (same : lines.map Text.stripLineEnd = others.map Text.stripLineEnd) (state : State) :
    engine.runLines name count lines state = engine.runLines name count others state := by
  induction lines generalizing count state others with
  | nil =>
    obtain rfl : others = [] := List.map_eq_nil_iff.mp same.symm
    rfl
  | cons raw rest ih =>
    obtain ⟨other, more, rfl, first, later⟩ := List.map_eq_cons_iff.mp same.symm
    rw [runLines, runLines, engine.step_of_stripLineEnd first.symm]
    simp only [ih _ later.symm]

/-- What an execution cannot tell apart it executes alike. -/
theorem execute_alike (engine : Engine) (name : String) {source other : Source}
    (alike : source.Alike other) (state : State) :
    engine.execute name source state = engine.execute name other state := by
  obtain ⟨seen, failure⟩ := alike
  rw [execute, execute, advance, advance, engine.runLines_of_stripLineEnd name 0 seen, failure]

end Engine

namespace Source

/-- However a script is spelled, an execution sees the same lines and does the same: bytes are seen
as the text that they are read as; so a text is seen the same as its bytes; a carriage return in
front of any line feed is not seen, nor is a line feed behind a last line that is not empty and has
none. -/
theorem alike_spellings :
    (∀ bytes, (ofBytes bytes).Alike (ofText (Text.Utf8.decode bytes))) ∧
    (∀ text, (ofBytes (Text.Utf8.encode text)).Alike (ofText text)) ∧
    (∀ before after : List UInt8,
      (ofBytes (before ++ 0x0d :: 0x0a :: after)).Alike (ofBytes (before ++ 0x0a :: after))) ∧
    (∀ before after : String,
      (ofText (before ++ "\r\n" ++ after)).Alike (ofText (before ++ "\n" ++ after))) ∧
    (∀ (bytes : List UInt8) (some : bytes ≠ []), bytes.getLast some ≠ 0x0a →
      (ofBytes (bytes ++ [0x0a])).Alike (ofBytes bytes)) ∧
    (∀ (text : String) (some : text.toList ≠ []), text.toList.getLast some ≠ '\n' →
      (ofText (text ++ "\n")).Alike (ofText text)) ∧
    (∀ source other : Source, source.Alike other → ∀ (engine : Engine) (name : String)
      (state : State), engine.execute name source state = engine.execute name other state) := by
  refine ⟨?_, ?_, ?_, ?_, ?_, ?_, ?_⟩
  · intro bytes
    rw [ofBytes_eq]
    exact ⟨rfl, rfl⟩
  · intro text
    rw [ofBytes_eq, Text.Utf8.decode, Text.Utf8.encode, Text.Utf8.decodeChars_encodeChars,
      String.ofList_toList]
    exact ⟨rfl, rfl⟩
  · intro before after
    exact .of_seen rfl rfl (seen_ofBytes_crlf before after)
  · intro before after
    have long : before ++ "\r\n" ++ after =
        String.ofList (before.toList ++ '\r' :: '\n' :: after.toList) := by
      rw [String.append_assoc, ← String.toList_inj]
      simp
    have short : before ++ "\n" ++ after =
        String.ofList (before.toList ++ '\n' :: after.toList) := by
      rw [String.append_assoc, ← String.toList_inj]
      simp
    rw [long, short]
    exact .of_seen rfl rfl (seen_ofText_crlf before.toList after.toList)
  · intro bytes some unended
    exact .of_seen rfl rfl (seen_ofBytes_ended some unended)
  · intro text some unended
    have same := seen_ofText_ended some unended
    rw [String.ofList_append, String.ofList_toList] at same
    exact .of_seen rfl rfl same
  · intro source other alike engine name state
    exact engine.execute_alike name alike state

/-- A character that the end cuts off, and a carriage return that is the last character. -/
theorem alike_spellings_cut_off :
    let bytes : List UInt8 := [0x61, 0xe2, 0x82]
    let text := "a\r"
    (∃ some : bytes ≠ [], bytes.getLast some ≠ 0x0a) ∧
      (∃ some : text.toList ≠ [], text.toList.getLast some ≠ '\n') ∧
      (ofBytes (bytes ++ [0x0a])).Alike (ofBytes bytes) ∧
      (ofText (text ++ "\n")).Alike (ofText text) ∧
      ∀ (engine : Engine) (name : String) (state : State),
        engine.execute name (ofText (text ++ "\n")) state =
          engine.execute name (ofText text) state := by
  intro bytes text
  obtain ⟨_, _, _, _, endedBytes, endedText, executed⟩ := alike_spellings
  have cut : ∃ some : bytes ≠ [], bytes.getLast some ≠ 0x0a := ⟨by decide, by decide⟩
  have returned : ∃ some : text.toList ≠ [], text.toList.getLast some ≠ '\n' :=
    ⟨by decide, by decide⟩
  have same := endedText text returned.1 returned.2
  exact ⟨cut, returned, endedBytes bytes cut.1 cut.2, same, executed _ _ same⟩

end LineScript.Source
