import Mathlib.Data.List.TakeDrop
import LineScript.Machine
import LineScript.Proofs.MarkedLines

/-!
# Where a NUL can come from
A NUL in a path, in a word of a line or in the value of a variable comes from the texts that it is
made of. All operations on texts are followed with the one question whether NULs can be about:
`Clean loose` says of a text that it holds a NUL only if they can (`loose`), so that one proof
covers the texts without NULs, and with all texts the faults that NULs make.
-/
namespace LineScript

/-! ## Texts -/

/-- A text that holds a NUL only if NULs are about. -/
def Clean (loose : Prop) (cs : List Char) : Prop := '\x00' ∈ cs → loose

variable {loose : Prop}

theorem Clean.part {part whole : List Char} (clean : Clean loose whole) (inside : part ⊆ whole) :
    Clean loose part := fun member => clean (inside member)

theorem clean_nil : Clean loose [] := by simp [Clean]

theorem clean_append {first second : List Char} :
    Clean loose (first ++ second) ↔ Clean loose first ∧ Clean loose second := by
  simp [Clean, or_imp]

theorem clean_cons {c : Char} {cs : List Char} (visible : c ≠ '\x00') (clean : Clean loose cs) :
    Clean loose (c :: cs) := by
  intro member
  rcases List.mem_cons.mp member with here | later
  · exact absurd here.symm visible
  · exact clean later

theorem clean_intercalate {between : List Char} {pieces : List (List Char)}
    (clean : Clean loose between) (each : ∀ piece ∈ pieces, Clean loose piece) :
    Clean loose (between.intercalate pieces) := by
  induction pieces with
  | nil => exact clean_nil
  | cons piece rest ih =>
    have first := each piece (by simp)
    have later := ih fun other member => each other (List.mem_cons_of_mem _ member)
    cases rest with
    | nil => simpa [List.intercalate] using first
    | cons next rest =>
      rw [List.intercalate_cons_cons, clean_append, clean_append]
      exact ⟨⟨first, clean⟩, later⟩

theorem clean_join {texts : List String} (each : ∀ text ∈ texts, Clean loose text.toList) :
    Clean loose (String.join texts).toList := by
  induction texts with
  | nil => exact clean_nil
  | cons text rest ih =>
    rw [String.join_cons, String.toList_append, clean_append]
    exact ⟨each text (by simp), ih fun other member => each other (List.mem_cons_of_mem _ member)⟩

theorem Clean.of_hasNul {text : String} (clean : Clean loose text.toList)
    (found : Files.Store.hasNul text = true) : loose :=
  clean (by simpa [Files.Store.hasNul] using found)

theorem clean_of_hasNul {text : String} (none : Files.Store.hasNul text = false) :
    Clean loose text.toList := by
  intro member
  simp [Files.Store.hasNul, member] at none

theorem dropEndWhile_subset {α : Type} (p : α → Bool) (xs : List α) :
    Text.dropEndWhile p xs ⊆ xs := by
  intro x member
  have inside := List.mem_reverse.mp member
  exact List.mem_reverse.mp ((List.dropWhile_suffix p).subset inside)

theorem stripChars_subset (cs : List Char) : Text.stripChars cs ⊆ cs :=
  List.Subset.trans (dropEndWhile_subset _ _) (List.dropWhile_suffix _).subset

/-! ## Paths -/

namespace Path

theorem splitAt_subset {p : Char → Bool} {cs piece : List Char} (member : piece ∈ splitAt p cs) :
    piece ⊆ cs := by
  induction cs generalizing piece with
  | nil =>
    obtain rfl := List.mem_singleton.mp member
    exact List.Subset.refl _
  | cons c rest ih =>
    rw [splitAt] at member
    by_cases cuts : p c = true
    · rw [if_pos cuts] at member
      rcases List.mem_cons.mp member with rfl | later
      · exact List.nil_subset _
      · exact List.Subset.trans (ih later) (List.subset_cons_self _ _)
    · rw [if_neg cuts] at member
      cases pieces : splitAt p rest with
      | nil =>
        simp only [pieces] at member
        obtain rfl := List.mem_singleton.mp member
        simp
      | cons first others =>
        simp only [pieces] at member
        rw [pieces] at ih
        rcases List.mem_cons.mp member with rfl | later
        · exact List.cons_subset_cons c (ih (by simp))
        · exact List.Subset.trans (ih (List.mem_cons_of_mem _ later)) (List.subset_cons_self _ _)

theorem clean_join {base path : String} (first : Clean loose base.toList)
    (second : Clean loose path.toList) : Clean loose (join base path).toList := by
  have slash : Clean loose ('/' :: path.toList) := clean_cons (by decide) second
  rw [join, String.toList_ofList, joinChars]
  split
  · exact second
  · split
    · exact clean_append.mpr ⟨first, second⟩
    · exact clean_append.mpr ⟨first, slash⟩

private theorem mem_keep {rooted : Bool} {names : List (List Char)} {piece name : List Char}
    (member : name ∈ keep rooted names piece) : name ∈ names ∨ name = piece := by
  unfold keep at member
  grind

theorem clean_normalNames {path : List Char} (clean : Clean loose path) :
    ∀ name ∈ normalNames path, Clean loose name := by
  have each (given : List (List Char)) (names : List (List Char))
      (pieces : ∀ piece ∈ given, Clean loose piece) (kept : ∀ name ∈ names, Clean loose name) :
      ∀ name ∈ given.foldl (keep (isAbsolute path)) names, Clean loose name := by
    induction given generalizing names with
    | nil => exact kept
    | cons piece rest ih =>
      refine ih _ (fun other member => pieces other (List.mem_cons_of_mem _ member)) ?_
      intro name member
      rcases mem_keep member with old | rfl
      · exact kept name old
      · exact pieces _ (by simp)
  intro name member
  refine each (pieces path) [] (fun piece inside => ?_) (by simp) name (List.mem_reverse.mp member)
  exact clean.part (splitAt_subset inside)

theorem clean_normalize {path : String} (clean : Clean loose path.toList) :
    Clean loose (normalize path).toList := by
  have slashes : Clean loose (rootSlashes path.toList) := by
    unfold rootSlashes
    split <;> simp [Clean]
  have names : Clean loose (['/'].intercalate (normalNames path.toList)) :=
    clean_intercalate (by simp [Clean]) (clean_normalNames clean)
  rw [normalize, String.toList_ofList, normalizeChars]
  split
  · simp [Clean]
  · exact clean_append.mpr ⟨slashes, names⟩

theorem clean_lastPiece {path : String} (clean : Clean loose path.toList) :
    Clean loose (lastPiece path).toList := by
  rw [lastPiece, String.toList_ofList]
  refine clean.part fun c member => ?_
  have inside := List.mem_reverse.mp member
  exact List.mem_reverse.mp ((List.takeWhile_prefix _).subset inside)

theorem clean_parent {path : String} (clean : Clean loose path.toList) :
    Clean loose (parent path).toList := by
  have front : Clean loose (path.toList.reverse.dropWhile (· != '/')).reverse :=
    clean.part (dropEndWhile_subset (· != '/') path.toList)
  simp only [parent]
  split
  · rwa [String.toList_ofList]
  · rw [String.toList_ofList]
    exact front.part (dropEndWhile_subset (· == '/') _)

theorem clean_expandHome {homeOf : List Char → Option (List Char)} {path : List Char}
    (homes : ∀ name home, homeOf name = some home → Clean loose home) (clean : Clean loose path) :
    Clean loose (expandHome homeOf path) := by
  unfold expandHome
  split
  · exact clean
  · rename_i name rest tilde
    split
    · exact clean
    · rename_i home known
      have behind : Clean loose rest := by
        refine clean.part ?_
        unfold tildeName at tilde
        split at tilde
        · rename_i after
          rw [List.span_eq_takeWhile_dropWhile] at tilde
          cases tilde
          exact List.Subset.trans (List.dropWhile_suffix _).subset (List.subset_cons_self _ _)
        · cases tilde
      have front := (homes name home known).part (dropEndWhile_subset (· == '/') home)
      split
      · simp [Clean]
      · exact clean_append.mpr ⟨front, behind⟩

end Path

/-- A tilde is refused only for a NUL in the name behind it. -/
theorem Machine.expandHome_error {machine : Machine} {path : String} {fault : Fault}
    (refused : machine.expandHome path = .error fault) :
    fault = .value .embeddedNul ∧ Files.Store.hasNul path = true := by
  unfold Machine.expandHome at refused
  split at refused
  · cases refused
  · rename_i name rest tilde
    split at refused
    · rename_i found
      cases refused
      refine ⟨rfl, ?_⟩
      unfold Path.tildeName at tilde
      split at tilde
      · rename_i after shape
        rw [List.span_eq_takeWhile_dropWhile] at tilde
        cases tilde
        have inside : '\x00' ∈ after :=
          (List.takeWhile_prefix _).subset (by simpa using found)
        simp [Files.Store.hasNul, shape, inside]
      · cases tilde
    · cases refused

/-! ## Environments -/

namespace Environment

/-- An environment without NULs in its names and values, unless NULs are about. -/
def Clean (loose : Prop) (env : Environment) : Prop :=
  ∀ entry ∈ env.entries,
    LineScript.Clean loose entry.1.toList ∧ LineScript.Clean loose entry.2.toList

variable {env : Environment}

theorem clean_value (clean : env.Clean loose) (name : String) :
    LineScript.Clean loose (env.value name).toList := by
  unfold value
  cases found : env.find? name with
  | none => exact clean_nil
  | some text => exact (clean _ (Table.mem_of_find? found)).2

theorem clean_insert (clean : env.Clean loose) {name text : String}
    (named : LineScript.Clean loose name.toList) (valued : LineScript.Clean loose text.toList) :
    Environment.Clean loose (env.insert name text) := by
  intro entry member
  rcases Table.mem_of_mem_insert member with old | rfl
  · exact clean entry old
  · exact ⟨named, valued⟩

theorem clean_printEntry {name text : String} (named : LineScript.Clean loose name.toList)
    (valued : LineScript.Clean loose text.toList) :
    LineScript.Clean loose (printEntry name text).toList := by
  have equals : LineScript.Clean loose ("=" : String).toList := by simp [LineScript.Clean]
  rw [printEntry, String.toList_append, String.toList_append]
  exact clean_append.mpr ⟨clean_append.mpr ⟨named, equals⟩, valued⟩

theorem clean_toEntries (clean : env.Clean loose) :
    ∀ entry ∈ env.toEntries, LineScript.Clean loose entry.toList := by
  intro entry member
  obtain ⟨pair, inside, rfl⟩ := List.mem_map.mp member
  exact clean_printEntry (clean pair inside).1 (clean pair inside).2

theorem clean_splitEntry {entry : String} (clean : LineScript.Clean loose entry.toList) :
    LineScript.Clean loose (splitEntry entry).1.toList ∧
      ∀ text, (splitEntry entry).2 = some text → LineScript.Clean loose text.toList := by
  have behind : LineScript.Clean loose (entry.toList.dropWhile (· != '=')) :=
    clean.part (List.dropWhile_suffix _).subset
  unfold splitEntry
  simp only
  split
  · refine ⟨?_, by simp⟩
    rw [String.toList_ofList]
    exact clean.part (List.takeWhile_prefix _).subset
  · rename_i shape
    constructor
    · rw [String.toList_ofList]
      exact clean.part (List.takeWhile_prefix _).subset
    · rintro _ ⟨⟩
      rw [shape] at behind
      rw [String.toList_ofList]
      exact behind.part (List.subset_cons_self _ _)

theorem clean_replaceReferences {value : List Char → List Char}
    (values : ∀ name, LineScript.Clean loose (value name)) {cs : List Char}
    (clean : LineScript.Clean loose cs) : LineScript.Clean loose (replaceReferences value cs) := by
  fun_induction replaceReferences value cs with
  | case1 => exact clean_nil
  | case2 rest name after found ih =>
    have behind : after ⊆ rest := suffix_reference? found |>.subset
    exact clean_append.mpr
      ⟨values name, ih (clean.part (List.Subset.trans behind (List.subset_cons_self _ _)))⟩
  | case3 rest unread ih =>
    exact clean_cons (by decide) (ih (clean.part (List.subset_cons_self _ _)))
  | case4 c rest plain ih =>
    intro member
    rcases List.mem_cons.mp member with rfl | later
    · exact clean (by simp)
    · exact ih (clean.part (List.subset_cons_self _ _)) later

theorem exists_of_mapM {α β ε : Type} {f : α → Except ε β} {items : List α} {values : List β}
    (read : items.mapM f = .ok values) :
    ∀ value ∈ values, ∃ item ∈ items, f item = .ok value := by
  induction items generalizing values with
  | nil =>
    cases read
    simp
  | cons item rest ih =>
    rw [List.mapM_cons] at read
    cases first : f item with
    | error fault => simp [first, bind, Except.bind] at read
    | ok own =>
      cases others : rest.mapM f with
      | error fault => simp [first, others, bind, Except.bind] at read
      | ok more =>
        simp only [first, others, bind, Except.bind, pure, Except.pure] at read
        cases read
        refine List.forall_mem_cons.mpr ⟨⟨item, by simp, first⟩, fun value member => ?_⟩
        obtain ⟨other, inside, known⟩ := ih others value member
        exact ⟨other, List.mem_cons_of_mem _ inside, known⟩

/-- The entries of an environment that was read are readings of what was given. -/
theorem exists_of_ofEntries {entries : List String} {env : Environment}
    (read : ofEntries entries = .ok env) :
    ∀ pair ∈ env.entries, ∃ entry ∈ entries, parseEntry entry = .ok pair := by
  cases found : entries.mapM parseEntry with
  | error fault => simp [ofEntries, found, Except.map] at read
  | ok given =>
    simp only [ofEntries, found, Except.map] at read
    cases read
    exact fun pair member => exists_of_mapM found pair (Table.mem_of_mem_ofList member)

/-- An entry that is read is cut at its first equals sign, and something stands in front of it. -/
theorem parseEntry_eq_ok {entry name text : String} (read : parseEntry entry = .ok (name, text)) :
    splitEntry entry = (name, some text) ∧ name.isEmpty = false := by
  unfold parseEntry at read
  split at read
  · rename_i split
    split at read
    · cases read
    · rename_i filled
      cases read
      exact ⟨split, by simpa using filled⟩
  · cases read

theorem clean_ofEntries {entries : List String} {env : Environment}
    (plain : ∀ entry ∈ entries, LineScript.Clean loose entry.toList)
    (read : ofEntries entries = .ok env) : env.Clean loose := by
  intro pair member
  obtain ⟨entry, given, parsed⟩ := exists_of_ofEntries read pair member
  obtain ⟨split, _⟩ := parseEntry_eq_ok parsed
  obtain ⟨named, valued⟩ := clean_splitEntry (plain entry given)
  rw [split] at named valued
  exact ⟨named, valued _ rfl⟩

theorem clean_expand (clean : env.Clean loose) {text : String}
    (plain : LineScript.Clean loose text.toList) :
    LineScript.Clean loose (env.expand text).toList := by
  rw [expand, String.toList_ofList]
  refine clean_replaceReferences (fun name => ?_) plain
  unfold referent
  split
  · simp [LineScript.Clean]
  · split
    · simp [LineScript.Clean]
    · exact clean_value clean _

end Environment

/-! ## Lines -/

namespace Script

/-- A segment without a NUL, unless NULs are about. -/
def Segment.Clean (loose : Prop) : Segment → Prop
  | .plain chars => LineScript.Clean loose chars
  | .quoted chars => LineScript.Clean loose chars

/-- A scan that has found no NUL, unless NULs are about. -/
def Scan.Clean (loose : Prop) : Scan → Prop
  | .between => True
  | .plain done chars => (∀ one ∈ done, one.Clean loose) ∧ LineScript.Clean loose chars
  | .quoted done chars => (∀ one ∈ done, one.Clean loose) ∧ LineScript.Clean loose chars

private theorem clean_reverse {cs : List Char} (clean : LineScript.Clean loose cs) :
    LineScript.Clean loose cs.reverse := clean.part (List.reverse_subset.mpr (List.Subset.refl _))

private theorem clean_closePlain {done : List Segment} {chars : List Char}
    (before : ∀ one ∈ done, one.Clean loose) (open' : LineScript.Clean loose chars) :
    ∀ one ∈ closePlain done chars, one.Clean loose := by
  unfold closePlain
  split
  · exact before
  · exact List.forall_mem_cons.mpr ⟨clean_reverse open', before⟩

private theorem clean_words {scan : Scan} {cs : List Char} {words : List (List Segment)}
    (clean : scan.Clean loose) (text : LineScript.Clean loose cs)
    (read : scan.words cs = .ok words) :
    ∀ word ∈ words, ∀ one ∈ word, one.Clean loose := by
  have rest {c : Char} {cs : List Char} (text : LineScript.Clean loose (c :: cs)) :
      LineScript.Clean loose cs := text.part (List.subset_cons_self _ _)
  have more {c : Char} {cs chars : List Char} (text : LineScript.Clean loose (c :: cs))
      (chosen : LineScript.Clean loose chars) : LineScript.Clean loose (c :: chars) := by
    intro member
    rcases List.mem_cons.mp member with rfl | later
    · exact text (by simp)
    · exact chosen later
  fun_induction Scan.words scan cs generalizing words with
  | case1 =>
    cases read
    simp
  | case2 c cs separator ih => exact ih trivial (rest text) read
  | case3 cs separator ih => exact ih ⟨by simp, clean_nil⟩ (rest text) read
  | case4 c cs separator quote ih => exact ih ⟨by simp, more text clean_nil⟩ (rest text) read
  | case5 done chars =>
    cases read
    intro word member one inside
    obtain rfl := List.mem_singleton.mp member
    exact clean_closePlain clean.1 clean.2 one (List.mem_reverse.mp inside)
  | case6 done chars c cs separator ih =>
    cases after : Scan.words .between cs with
    | error fault => simp [after, Except.map] at read
    | ok others =>
      rw [after] at read
      cases read
      intro word member one inside
      rcases List.mem_cons.mp member with rfl | later
      · exact clean_closePlain clean.1 clean.2 one (List.mem_reverse.mp inside)
      · exact ih trivial (rest text) after word later one inside
  | case7 done chars cs separator ih =>
    exact ih ⟨clean_closePlain clean.1 clean.2, clean_nil⟩ (rest text) read
  | case8 done chars c cs separator quote ih =>
    exact ih ⟨clean.1, more text clean.2⟩ (rest text) read
  | case9 done chars => cases read
  | case10 done chars cs ih => exact ih ⟨clean.1, more text clean.2⟩ (rest (rest text)) read
  | case11 done chars cs single ih =>
    exact ih ⟨List.forall_mem_cons.mpr ⟨clean_reverse clean.2, clean.1⟩, clean_nil⟩ (rest text) read
  | case12 done chars c cs single quote ih =>
    exact ih ⟨clean.1, more text clean.2⟩ (rest text) read

private theorem clean_splitWords {text : String} {env : Environment} {words : List Word}
    (clean : env.Clean loose) (plain : LineScript.Clean loose text.toList)
    (split : splitWords text env.expand = .ok words) :
    ∀ word ∈ words, LineScript.Clean loose word.text.toList := by
  cases raw : rawWords text with
  | error fault => simp [splitWords, raw, Except.map] at split
  | ok segments =>
    simp only [splitWords, raw, Except.map] at split
    cases split
    intro word member
    obtain ⟨parts, inside, rfl⟩ := List.mem_map.mp member
    refine clean_join fun piece among => ?_
    obtain ⟨one, part, rfl⟩ := List.mem_map.mp among
    have kept := @clean_words loose .between _ _ trivial plain raw parts inside one part
    cases one with
    | plain chars => exact Environment.clean_expand clean (by rwa [String.toList_ofList])
    | quoted chars => rwa [Segment.text, String.toList_ofList]

private theorem takeGuards_suffix {words rest : List Word} {guards : List Guard}
    (taken : takeGuards words = .ok (guards, rest)) : rest <:+ words := by
  induction words generalizing guards with
  | nil =>
    cases taken
    exact List.suffix_rfl
  | cons word words ih =>
    rw [takeGuards] at taken
    by_cases opens : word.opensGuard = true
    · rw [if_pos opens] at taken
      cases inside : word.guard with
      | error fault => simp [inside, bind, Except.bind] at taken
      | ok guard =>
        cases later : takeGuards words with
        | error fault => simp [inside, later, bind, Except.bind] at taken
        | ok more =>
          simp only [inside, later, bind, Except.bind, pure, Except.pure] at taken
          cases taken
          exact (ih later).trans (List.suffix_cons _ _)
    · rw [if_neg opens] at taken
      cases taken
      exact List.suffix_rfl

private theorem takePrefix_suffix {words rest : List Word} {want : Expect}
    (taken : takePrefix words = (want, rest)) : rest <:+ words := by
  unfold takePrefix at taken
  split at taken
  · cases taken
    exact List.suffix_rfl
  · split at taken
    · cases taken
      exact List.suffix_cons _ _
    · split at taken <;> cases taken
      · exact List.suffix_cons _ _
      · exact List.suffix_rfl

private theorem takeBackground_subset {words rest : List Word} {background : Bool}
    (taken : takeBackground words = (background, rest)) : rest ⊆ words := by
  unfold takeBackground at taken
  split at taken
  · split at taken <;> cases taken
    · exact List.dropLast_subset _
    · exact List.Subset.refl _
  · cases taken
    exact List.Subset.refl _

/-- The arguments of a line hold a NUL only if its text or the environment does. -/
theorem Line.clean_args {text : String} {env : Environment} {line : Line} (clean : env.Clean loose)
    (plain : LineScript.Clean loose text.toList)
    (read : Line.parse text env.expand = .ok (some line)) :
    ∀ arg ∈ line.args, LineScript.Clean loose arg.toList := by
  obtain ⟨raw, _, words, split, made⟩ := Line.words_of_parse read
  obtain ⟨afterGuards, afterPrefix, name, args, guarded, prefixed, marked, _, _, given⟩ :=
    taken_of_ofWords made
  have stripped : LineScript.Clean loose line.raw.toList := by
    rw [raw, Text.strip, String.toList_ofList]
    exact plain.part (stripChars_subset _)
  intro arg member
  rw [given] at member
  obtain ⟨word, inside, rfl⟩ := List.mem_map.mp member
  refine clean_splitWords clean stripped split word ?_
  have kept := takeBackground_subset marked (List.mem_cons_of_mem name inside)
  exact (takeGuards_suffix guarded).subset ((takePrefix_suffix prefixed).subset kept)

end Script

end LineScript
