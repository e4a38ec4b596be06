import Mathlib.Logic.Basic
import LineScript.Presentation

/-!
# Shown channels
What is written of a run is determined by the channels that are shown: the log alone, or each stream
that is asked for, without its escape sequences and with its last line ended (`Shows`). A sequence
never takes the line feed behind it along, since none ends in one (`WithoutEscapes.lineFeed`). So
hidden channels make no difference, and either stream is left at the start of a line
(`present_shown`).
-/
namespace LineScript

/-! ## Escape sequences -/

namespace Text

/-- An escape sequence, from the escape character to its letter. -/
def IsEscape (cs : List Char) : Prop :=
  ∃ parameters letter, cs = '\x1b' :: '[' :: (parameters ++ [letter]) ∧
    (∀ c ∈ parameters, isEscapeParameter c = true) ∧ letter.isAlpha = true

/-- The second text is the first without its escape sequences, as they are found from the left: one
that stands in front is left out as a whole, and where none does, a character is kept. -/
inductive WithoutEscapes : List Char → List Char → Prop
  | nil : WithoutEscapes [] []
  | leave {escape rest plain : List Char} : IsEscape escape → WithoutEscapes rest plain →
      WithoutEscapes (escape ++ rest) plain
  | keep {c : Char} {rest plain : List Char} :
      (∀ escape, IsEscape escape → ¬escape <+: c :: rest) → WithoutEscapes rest plain →
        WithoutEscapes (c :: rest) (c :: plain)

theorem isEscapeParameter_of_isAlpha {c : Char} (alpha : c.isAlpha = true) :
    isEscapeParameter c = false := by
  rw [Bool.eq_false_iff]
  intro parameter
  simp only [isEscapeParameter, Bool.or_eq_true, beq_iff_eq] at parameter
  obtain (rfl | rfl) | digit := parameter
  · exact absurd alpha (by decide)
  · exact absurd alpha (by decide)
  · have low : c.val ≤ '9'.val := of_decide_eq_true (Bool.and_eq_true_iff.mp digit).2
    obtain upper | lower : c.isUpper = true ∨ c.isLower = true := Bool.or_eq_true_iff.mp alpha
    · have high : 'A'.val ≤ c.val := (of_decide_eq_true upper).1
      exact absurd (UInt32.le_trans high low) (by decide)
    · have high : 'a'.val ≤ c.val := of_decide_eq_true (Bool.and_eq_true_iff.mp lower).1
      exact absurd (UInt32.le_trans high low) (by decide)

/-- A letter is no parameter, so a sequence ends at its first letter. -/
theorem afterEscape_eq_some {cs rest : List Char} : afterEscape cs = some rest ↔
    ∃ parameters letter, cs = parameters ++ letter :: rest ∧
      (∀ c ∈ parameters, isEscapeParameter c = true) ∧ letter.isAlpha = true := by
  constructor
  · intro found
    fun_induction afterEscape cs with
    | case1 => cases found
    | case2 c cs parameter ih =>
      obtain ⟨parameters, letter, rfl, all, alpha⟩ := ih found
      exact ⟨c :: parameters, letter, rfl, List.forall_mem_cons.mpr ⟨parameter, all⟩, alpha⟩
    | case3 c cs _ alpha =>
      cases found
      exact ⟨[], c, rfl, by simp, alpha⟩
    | case4 => cases found
  · rintro ⟨parameters, letter, rfl, all, alpha⟩
    induction parameters with
    | nil =>
      rw [List.nil_append, afterEscape, if_neg (by simp [isEscapeParameter_of_isAlpha alpha]),
        if_pos alpha]
    | cons c parameters ih =>
      rw [List.forall_mem_cons] at all
      rw [List.cons_append, afterEscape, if_pos all.1, ih all.2]

theorem afterEscape_iff {cs rest : List Char} : afterEscape cs = some rest ↔
    ∃ escape, IsEscape escape ∧ '\x1b' :: '[' :: cs = escape ++ rest := by
  rw [afterEscape_eq_some]
  constructor
  · rintro ⟨parameters, letter, rfl, all, alpha⟩
    exact ⟨_, ⟨parameters, letter, rfl, all, alpha⟩, by simp⟩
  · rintro ⟨_, ⟨parameters, letter, rfl, all, alpha⟩, shape⟩
    exact ⟨parameters, letter, by simpa using shape, all, alpha⟩

theorem stripEscapes_escape {escape : List Char} (whole : IsEscape escape) (rest : List Char) :
    stripEscapes (escape ++ rest) = stripEscapes rest := by
  obtain ⟨parameters, letter, rfl, all, alpha⟩ := whole
  have found : afterEscape (parameters ++ [letter] ++ rest) = some rest :=
    afterEscape_eq_some.mpr ⟨parameters, letter, by simp, all, alpha⟩
  rw [List.cons_append, List.cons_append, stripEscapes]
  split
  next after again => rw [Option.some.inj (again.symm.trans found)]
  next again => exact absurd (again.symm.trans found) (by simp)

theorem stripEscapes_keep {c : Char} {rest : List Char}
    (none : ∀ escape, IsEscape escape → ¬escape <+: c :: rest) :
    stripEscapes (c :: rest) = c :: stripEscapes rest := by
  generalize shape : c :: rest = cs at none
  fun_cases stripEscapes cs with
  | case1 => cases shape
  | case2 behind after found =>
    obtain ⟨escape, whole, split⟩ := afterEscape_iff.mp found
    exact absurd ⟨after, split.symm⟩ (none escape whole)
  | case3 | case4 =>
    cases shape
    rfl

theorem withoutEscapes_stripEscapes (cs : List Char) : WithoutEscapes cs (stripEscapes cs) := by
  fun_induction stripEscapes cs with
  | case1 => exact .nil
  | case2 behind after found ih =>
    obtain ⟨escape, whole, split⟩ := afterEscape_iff.mp found
    rw [split]
    exact .leave whole ih
  | case3 behind unfinished ih =>
    -- A sequence begins here, but something else stands before its letter, or the end does.
    refine .keep ?_ ih
    rintro escape whole ⟨after, split⟩
    have found := afterEscape_iff.mpr ⟨escape, whole, split.symm⟩
    exact absurd (unfinished.symm.trans found) (by simp)
  | case4 c rest other ih =>
    refine .keep ?_ ih
    rintro _ ⟨parameters, letter, rfl, -, -⟩ ⟨after, split⟩
    obtain ⟨rfl, same⟩ := List.cons_eq_cons.mp split
    exact other _ rfl same.symm

theorem WithoutEscapes.eq {cs plain : List Char} (stripped : WithoutEscapes cs plain) :
    plain = stripEscapes cs := by
  induction stripped with
  | nil => rw [stripEscapes]
  | leave whole _ ih => rw [stripEscapes_escape whole, ih]
  | keep none _ ih => rw [stripEscapes_keep none, ih]

theorem IsEscape.getLast? {escape : List Char} (whole : IsEscape escape) :
    ∃ letter, escape.getLast? = some letter ∧ letter.isAlpha = true := by
  obtain ⟨parameters, letter, rfl, -, alpha⟩ := whole
  exact ⟨letter, by rw [← List.cons_append, ← List.cons_append, List.getLast?_concat], alpha⟩

/-- A line feed behind a text belongs to no sequence, also where the text breaks off in one. -/
theorem WithoutEscapes.lineFeed {cs plain : List Char} (stripped : WithoutEscapes cs plain) :
    WithoutEscapes (cs ++ ['\n']) (plain ++ ['\n']) := by
  induction stripped with
  | nil =>
    refine .keep ?_ .nil
    rintro _ ⟨parameters, letter, rfl, -, -⟩ front
    simp at front
  | leave whole _ ih =>
    rw [List.append_assoc]
    exact .leave whole ih
  | @keep c rest plain none _ ih =>
    refine .keep (fun escape whole front => ?_) ih
    change escape <+: (c :: rest) ++ ['\n'] at front
    rw [List.prefix_concat_iff] at front
    obtain same | front := front
    · obtain ⟨letter, last, alpha⟩ := whole.getLast?
      rw [same, List.getLast?_concat, Option.some.injEq] at last
      exact absurd alpha (by rw [← last]; decide)
    · exact none escape whole front

theorem plain_lineFeed (text : String) : plain (text ++ "\n") = plain text ++ "\n" := by
  have stripped := (withoutEscapes_stripEscapes text.toList).lineFeed.eq
  rw [plain, plain, String.toList_append]
  change String.ofList (stripEscapes (text.toList ++ ['\n'])) = _
  rw [← stripped, String.ofList_append]

end Text

/-! ## One channel -/

/-- What is written of a text under a label. Of a text that is not asked for, or is empty, nothing
is; otherwise the label's line, if there is a label, then the text without its escape sequences, and
a line feed exactly if the text itself does not end in one. -/
inductive IsWritten (label : Option String) : Bool → String → String → Prop
  | hidden (text : String) : IsWritten label false text ""
  | empty : IsWritten label true "" ""
  | block {text plain : String} : text ≠ "" → Text.WithoutEscapes text.toList plain.toList →
      IsWritten label true text (label.elim "" (· ++ "\n") ++ plain ++
        if text.toList.getLast? = some '\n' then "" else "\n")

/-- The text is empty or ends in a line feed. -/
def IsEnded (text : String) : Prop := text = "" ∨ ∃ lines, text = lines ++ "\n"

section
variable (label : Option String)

theorem printedStream_filled {text : String} (filled : text ≠ "") :
    printedStream label text = label.elim "" (· ++ "\n") ++ Text.plain text ++
      if text.toList.getLast? = some '\n' then "" else "\n" := by
  rw [printedStream, if_neg (by simpa using filled), printed, Text.withLineFeed,
    Text.lacksLineFeed, String.append_assoc]
  by_cases ended : text.toList.getLast? = some '\n'
  · simp [ended]
  · simp [ended, Text.plain_lineFeed]

theorem isWritten_printedStream (asked : Bool) (text : String) :
    IsWritten label asked text (if asked then printedStream label text else "") := by
  cases asked with
  | false => exact .hidden text
  | true =>
    rw [if_pos rfl]
    by_cases empty : text = ""
    · rw [empty]
      exact .empty
    · have stripped : Text.WithoutEscapes text.toList (Text.plain text).toList := by
        rw [Text.plain, String.toList_ofList]
        exact Text.withoutEscapes_stripEscapes text.toList
      rw [printedStream_filled label empty]
      exact .block empty stripped

theorem isEnded_printedStream (text : String) : IsEnded (printedStream label text) := by
  obtain ⟨lines, ended⟩ := Text.withLineFeed_ended text
  rw [printedStream]
  by_cases empty : text.isEmpty = true
  · exact .inl (if_pos empty)
  · rw [if_neg empty, printed, ended, Text.plain_lineFeed, ← String.append_assoc]
    exact .inr ⟨_, rfl⟩

variable {label} {asked : Bool} {text written : String} (shown : IsWritten label asked text written)
include shown

theorem IsWritten.eq : written = if asked then printedStream label text else "" := by
  cases shown with
  | hidden | empty => rfl
  | @block _ plain filled stripped =>
    have same : plain = Text.plain text := by
      rw [Text.plain, ← stripped.eq, String.ofList_toList]
    rw [if_pos rfl, printedStream_filled label filled, same]

theorem IsWritten.unique {again : String} (other : IsWritten label asked text again) :
    written = again :=
  shown.eq.trans other.eq.symm

theorem IsWritten.isEnded : IsEnded written := by
  rw [shown.eq]
  cases asked with
  | false => exact .inl rfl
  | true => exact isEnded_printedStream label text

theorem IsWritten.congr {other : String} (same : asked = true → text = other) :
    IsWritten label asked other written := by
  cases asked with
  | true => exact same rfl ▸ shown
  | false =>
    cases shown
    exact .hidden other

end

/-! ## All channels -/

namespace Channels

section
variable (channels : Channels)

/-- A stream gets its label exactly if both streams are asked for and there is something in both. -/
def label (output : Output) (name : String) : Option String :=
  if (channels.stdout = true ∧ output.stdout ≠ "") ∧ channels.stderr = true ∧ output.stderr ≠ ""
  then some name else none

/-- Two results of a run agree on the channels that are shown: the log if it is asked for, otherwise
each stream that is. -/
structure Agree (output : Output) (log : String) (other : Output) (otherLog : String) : Prop where
  log : channels.log = true → log = otherLog
  stdout : channels.log = false → channels.stdout = true → output.stdout = other.stdout
  stderr : channels.log = false → channels.stderr = true → output.stderr = other.stderr

/-- What is written on standard output and standard error when a run is shown: the log alone if it
is asked for, otherwise each stream that is. -/
structure Shows (output : Output) (log : String) (written : Output) : Prop where
  log : channels.log = true → IsWritten none true log written.stdout ∧ written.stderr = ""
  stdout : channels.log = false →
    IsWritten (channels.label output "[stdout]") channels.stdout output.stdout written.stdout
  stderr : channels.log = false →
    IsWritten (channels.label output "[stderr]") channels.stderr output.stderr written.stderr

end

variable {channels : Channels} {output other written : Output} {log otherLog : String}

theorem Agree.label (agree : channels.Agree output log other otherLog)
    (streams : channels.log = false) (name : String) :
    channels.label output name = channels.label other name := by
  rw [Channels.label, Channels.label]
  refine if_congr (and_congr (and_congr_right ?_) (and_congr_right ?_)) rfl rfl
  · intro asked
    rw [agree.stdout streams asked]
  · intro asked
    rw [agree.stderr streams asked]

theorem Agree.shows (agree : channels.Agree output log other otherLog)
    (shows : channels.Shows output log written) : channels.Shows other otherLog written where
  log asked := agree.log asked ▸ shows.log asked
  stdout streams := by
    rw [← agree.label streams]
    exact (shows.stdout streams).congr (agree.stdout streams)
  stderr streams := by
    rw [← agree.label streams]
    exact (shows.stderr streams).congr (agree.stderr streams)

theorem Shows.unique {again : Output} (shows : channels.Shows output log written)
    (alike : channels.Shows output log again) : written = again := by
  obtain ⟨stdout, stderr⟩ : written.stdout = again.stdout ∧ written.stderr = again.stderr := by
    cases asked : channels.log with
    | true =>
      obtain ⟨stdout, stderr⟩ := shows.log asked
      exact ⟨stdout.unique (alike.log asked).1, stderr.trans (alike.log asked).2.symm⟩
    | false =>
      exact ⟨(shows.stdout asked).unique (alike.stdout asked),
        (shows.stderr asked).unique (alike.stderr asked)⟩
  cases written
  exact congr (congrArg Output.mk stdout) stderr

theorem Shows.isEnded (shows : channels.Shows output log written) :
    IsEnded written.stdout ∧ IsEnded written.stderr := by
  cases asked : channels.log with
  | true => exact ⟨(shows.log asked).1.isEnded, .inl (shows.log asked).2⟩
  | false => exact ⟨(shows.stdout asked).isEnded, (shows.stderr asked).isEnded⟩

variable (channels output log)

theorem present_of_streams (streams : channels.log = false) : channels.present output log =
    ⟨if channels.stdout then printedStream (channels.label output "[stdout]") output.stdout else "",
      if channels.stderr then printedStream (channels.label output "[stderr]") output.stderr
      else ""⟩ := by
  rw [present, if_neg (by simp [streams]), Output.present, Output.restrict]
  cases stdout : channels.stdout <;> cases stderr : channels.stderr <;>
    simp [label, stdout, stderr, printedStream]

theorem shows_present : channels.Shows output log (channels.present output log) where
  log asked := by
    rw [present, if_pos asked]
    exact ⟨isWritten_printedStream none true log, rfl⟩
  stdout streams := by
    rw [present_of_streams channels output log streams]
    exact isWritten_printedStream _ channels.stdout output.stdout
  stderr streams := by
    rw [present_of_streams channels output log streams]
    exact isWritten_printedStream _ channels.stderr output.stderr

/-- Each channel that is shown is written as a whole, whatever is in the others, and whatever is
written ends its last line. -/
theorem present_shown : channels.Shows output log (channels.present output log) ∧
    (∀ other otherLog, channels.Agree output log other otherLog →
      channels.present other otherLog = channels.present output log) ∧
    IsEnded (channels.present output log).stdout ∧
    IsEnded (channels.present output log).stderr := by
  have shows := shows_present channels output log
  refine ⟨shows, ?_, shows.isEnded⟩
  intro other otherLog agree
  exact (shows_present channels other otherLog).unique (agree.shows shows)

/-- What is on standard error, which is hidden, does not even change the label. -/
theorem present_shown_hidden :
    let channels : Channels := ⟨false, true, false⟩
    let output : Output := ⟨"\x1b[31mred\x1b[0m", "warning"⟩
    let other : Output := ⟨"\x1b[31mred\x1b[0m", ""⟩
    channels.Agree output "> a\n" other "" ∧
      channels.present other "" = channels.present output "> a\n" ∧
      channels.present other "" = ⟨"red\n", ""⟩ := by
  intro channels output other
  have agree : channels.Agree output "> a\n" other "" :=
    ⟨fun asked => absurd asked (by decide), fun _ _ => rfl, fun _ asked => absurd asked (by decide)⟩
  exact ⟨agree, (present_shown channels output "> a\n").2.1 other "" agree, by decide +kernel⟩

/-- Labels tell two streams apart; whether a line feed is added is decided before escape sequences
go. -/
example : (Channels.mk false true true).present ⟨"a\n\x1b[0m", "b\n"⟩ "" =
    ⟨"[stdout]\na\n\n", "[stderr]\nb\n"⟩ := by decide +kernel

end Channels

end LineScript
