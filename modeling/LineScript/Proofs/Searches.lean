import LineScript.Proofs.Checks

/-!
# Searching in a file and in what was printed of it
A pattern is searched for in a file by its name, or in the last output. The flags before the pattern
are read in the same way, though more words follow the pattern in one case (`takeFlags_append`), and
what is printed of a file is the text that is searched in it. So both searches come to the same, but
for the name of what was searched (`runLine_searches`).
-/
namespace LineScript

/-! ## Flags -/

namespace Builtin

/-- A word that is read as a flag if a word follows it. -/
abbrev IsFlag (word : String) : Prop := word.toList.head? = some '-'

/-- What flags say together: how many matches there must be, if that matters. -/
def wanted (count : Option Int) : List String → Except UsageFault (Option Int)
  | [] => .ok count
  | flag :: rest => match readFlag flag with
    | .ok said => wanted (said.or count) rest
    | .error fault => .error fault

/-- All flags before a pattern are taken. The pattern is known by its first character, or as the
last word. -/
theorem takeFlags_append {flags : List String} (dashed : ∀ flag ∈ flags, IsFlag flag)
    {pattern : String} {rest : List String} (placed : ¬IsFlag pattern ∨ rest = [])
    (count : Option Int) :
    takeFlags count (flags ++ pattern :: rest) = (wanted count flags).map (·, pattern :: rest) := by
  induction flags generalizing count with
  | nil =>
    cases rest with
    | nil => rfl
    | cons word more =>
      have plain : ¬IsFlag pattern := by simpa using placed
      rw [List.nil_append, takeFlags, if_neg plain]
      · rfl
      · simp
  | cons flag flags ih =>
    rw [List.forall_mem_cons] at dashed
    rw [List.cons_append, takeFlags, if_pos dashed.1, wanted]
    · cases readFlag flag with
      | ok said => exact ih dashed.2 _
      | error fault => rfl
    · simp

/-! ## Verdicts -/

/-- What a search comes to: wrong flags, a pattern that does not compile, or a number of matches,
where another one may be wanted. -/
inductive Verdict where
  | misused (fault : UsageFault)
  | unusable (problem : Pattern.Problem)
  | counted (found : Nat) (count : Option Int)

/-- What it comes to if a pattern is searched for in a text, with these flags. -/
def verdict (machine : Machine) (flags : List String) (pattern text : String) : Verdict :=
  match wanted none flags with
  | .error fault => .misused fault
  | .ok count => match Pattern.compile machine.platform.character pattern with
    | .error problem => .unusable problem
    | .ok compiled => .counted (compiled.count text) count

/-- How the command ends then. Only here it matters what the searched text is called. -/
def Verdict.upshot (pattern name : String) : Verdict → Upshot
  | .misused fault => .error (.usage fault)
  | .unusable problem => .error (patternFault problem)
  | .counted found count => match judge found count pattern name with
    | .ok () => .ok none
    | .error failure => .error (.failure failure)

/-- A search reads its flags, compiles its pattern, and then looks for what it is to search in. -/
theorem search_append (machine : Machine) (content : List String → Except Fault (String × String))
    {flags : List String} (dashed : ∀ flag ∈ flags, IsFlag flag) {pattern : String}
    {rest : List String} (placed : ¬IsFlag pattern ∨ rest = []) :
    search machine content (flags ++ pattern :: rest) = match wanted none flags with
      | .error fault => .error (.usage fault)
      | .ok count => match Pattern.compile machine.platform.character pattern with
        | .error problem => .error (patternFault problem)
        | .ok compiled => match content rest with
          | .error fault => .error fault
          | .ok (text, name) => match judge (compiled.count text) count pattern name with
            | .ok () => .ok .done
            | .error failure => .error (.failure failure) := by
  rw [search, takeFlags_append dashed placed]
  cases wanted none flags with
  | error fault => rfl
  | ok count =>
    simp only [Except.map]
    cases Pattern.compile machine.platform.character pattern with
    | error problem => rfl
    | ok compiled =>
      simp only [bind, Except.bind]
      cases content rest with
      | error fault => rfl
      | ok found =>
        simp only
        cases judge (compiled.count found.1) count pattern found.2 <;> rfl

/-- A search for a pattern in a text ends as its verdict says. -/
theorem settle_search {machine : Machine} {content : List String → Except Fault (String × String)}
    {flags : List String} (dashed : ∀ flag ∈ flags, IsFlag flag) {pattern : String}
    (plain : ¬IsFlag pattern)
    {rest : List String} {text name : String} (given : content rest = .ok (text, name))
    (state : State) :
    (replyOf (search machine content (flags ++ pattern :: rest))).settle state =
      (state, (verdict machine flags pattern text).upshot pattern name) := by
  rw [search_append machine content dashed (.inl plain), verdict]
  cases wanted none flags with
  | error fault => rfl
  | ok count =>
    cases Pattern.compile machine.platform.character pattern with
    | error problem => rfl
    | ok compiled =>
      simp only [given, Verdict.upshot]
      cases judge (compiled.count text) count pattern name <;> rfl

/-- Two searches for a pattern end in the same way, in texts that are called by these names. Either
both succeed or none does; faults in the use are the very same; and if they fail they have found as
many matches, and their messages differ in the name only. -/
structure SameSearch (pattern name other : String) (one two : Upshot) : Prop where
  succeed : ∀ said, one = .ok said ↔ two = .ok said
  misused : ∀ fault, one = .error (.usage fault) ↔ two = .error (.usage fault)
  fail : (∃ failure output, one = .error (.command failure output)) ↔
    ∃ failure output, two = .error (.command failure output)
  counted : ∀ found count, one = .error (.failure (.wrongCount found pattern name count)) ↔
    two = .error (.failure (.wrongCount found pattern other count))
  worded : ∃ front back,
    (∀ failure output, one = .error (.command failure output) →
      failure.message = front ++ name ++ back) ∧
    ∀ failure output, two = .error (.command failure output) →
      failure.message = front ++ other ++ back

section
variable (pattern name other : String)

/-- Where no command fails the two end alike only if they end in the very same. -/
theorem sameSearch_refl {upshot : Upshot}
    (sound : ∀ failure output, upshot ≠ .error (.command failure output)) :
    SameSearch pattern name other upshot upshot where
  succeed said := Iff.rfl
  misused fault := Iff.rfl
  fail := Iff.rfl
  counted found count := by simp [sound, Fault.failure]
  worded := ⟨"", "", by simp [sound], by simp [sound]⟩

theorem sameSearch_count (found : Nat) (count : Int) : SameSearch pattern name other
    (.error (.failure (.wrongCount found pattern name count)))
    (.error (.failure (.wrongCount found pattern other count))) where
  succeed said := by simp
  misused fault := by simp [Fault.failure]
  fail := by simp [Fault.failure]
  counted otherFound otherCount := by simp [Fault.failure]
  worded := by
    have message (name : String) : (Failure.wrongCount found pattern name count).message =
        "found " ++ toString found ++ " matches for `" ++ pattern ++ "` in " ++ name ++
          (", want " ++ toString count) :=
      String.append_assoc
    simp only [Fault.failure, Except.error.injEq, Fault.command.injEq, and_imp]
    exact ⟨_, _, fun failure _ same _ => same ▸ message name,
      fun failure _ same _ => same ▸ message other⟩

theorem sameSearch_none : SameSearch pattern name other
    (.error (.failure (.noMatch pattern name))) (.error (.failure (.noMatch pattern other))) where
  succeed said := by simp
  misused fault := by simp [Fault.failure]
  fail := by simp [Fault.failure]
  counted found count := by simp [Fault.failure]
  worded := by
    have message (name : String) : (Failure.noMatch pattern name).message =
        "no match for `" ++ pattern ++ "` found in " ++ name ++ "" :=
      String.append_empty.symm
    simp only [Fault.failure, Except.error.injEq, Fault.command.injEq, and_imp]
    exact ⟨_, _, fun failure _ same _ => same ▸ message name,
      fun failure _ same _ => same ▸ message other⟩

/-- With one verdict two searches end in the same way. -/
theorem Verdict.sameSearch (verdict : Verdict) :
    SameSearch pattern name other (verdict.upshot pattern name) (verdict.upshot pattern other) := by
  cases verdict with
  | misused fault => exact sameSearch_refl pattern name other (by simp [upshot])
  | unusable problem =>
    cases problem <;> exact sameSearch_refl pattern name other (by simp [upshot, patternFault])
  | counted found count =>
    rw [upshot, upshot]
    cases count with
    | none =>
      by_cases missing : found = 0
      · simpa [judge, missing] using sameSearch_none pattern name other
      · simpa [judge, missing] using sameSearch_refl pattern name other (by simp)
    | some count =>
      by_cases exact : (found : Int) = count
      · simpa [judge, exact] using sameSearch_refl pattern name other (by simp)
      · simpa [judge, exact] using sameSearch_count pattern name other found count

end

/-! ## Texts of files -/

/-- The file of this name can be read, and holds these bytes. -/
def Reads (scene : Scene) (name : String) (bytes : List UInt8) : Prop :=
  ∃ path, scene.resolve name = .ok path ∧ Files.Store.hasNul path = false ∧
    scene.machine.store.readFile path = .ok bytes

/-- The text that bytes are read as. -/
def textOf (bytes : List UInt8) : String :=
  String.ofList (Text.unifyLineEnds (Text.Utf8.decodeChars bytes))

theorem readText_of_reads {scene : Scene} {name : String} {bytes : List UInt8}
    (reads : Reads scene name bytes) : readText scene name = .ok (textOf bytes) := by
  obtain ⟨path, resolved, whole, read⟩ := reads
  simp only [readText, resolved, bind, Except.bind, whole, read]
  rfl

theorem perform_cat (usage : CommandUsage) {state : State} {name : String} {bytes : List UInt8}
    (reads : Reads state.toScene name bytes) :
    (looking usage cat).perform [name] state = (state, .ok (some ⟨textOf bytes, ""⟩)) := by
  have printed : cat [name] state = .ok (say (textOf bytes)) := by
    simp [cat, readText_of_reads reads, bind, Except.bind, pure, Except.pure, String.join]
  rw [perform_looking, printed]
  rfl

section
variable {flags : List String} (dashed : ∀ flag ∈ flags, IsFlag flag) {pattern : String}
  (plain : ¬IsFlag pattern) (usage : CommandUsage) {state : State}
include dashed plain

theorem perform_grep {name : String} {bytes : List UInt8} (reads : Reads state.toScene name bytes) :
    (looking usage grep).perform (flags ++ [pattern, name]) state =
      (state, (verdict state.machine flags pattern (textOf bytes)).upshot pattern name) := by
  rw [perform_looking, grep]
  refine settle_search dashed plain ?_ state
  simp [readText_of_reads reads, bind, Except.bind, pure, Except.pure]

theorem perform_searchStdout :
    (looking usage searchStdout).perform (flags ++ [pattern]) state =
      (state, (verdict state.machine flags pattern state.last.stdout).upshot pattern "stdout") := by
  rw [perform_looking, searchStdout, searchLast]
  exact settle_search dashed plain rfl state

end

end Builtin

/-! ## Lines that search -/

namespace Engine

variable {engine : Engine}

/-- A line that searches a file ends as it does to print the file and to search the output. All that
differs is the name of what was searched. -/
theorem runLine_searches (knows : engine.Knows ["cat", "grep", "stdout"]) {state : State}
    {file : String} {bytes : List UInt8} (reads : Builtin.Reads state.toScene file bytes)
    {flags : List String} (dashed : ∀ flag ∈ flags, Builtin.IsFlag flag) {pattern : String}
    (plain : ¬Builtin.IsFlag pattern) (want : Script.Expect) (catRaw grepRaw stdoutRaw : String) :
    let text := Builtin.textOf bytes
    let printed := state.record ⟨text, ""⟩
    let inFile := (Builtin.verdict state.machine flags pattern text).upshot pattern file
    let inOutput := (Builtin.verdict state.machine flags pattern text).upshot pattern "stdout"
    (∃ trace, engine.runLine ⟨catRaw, "cat", [file], [], .success, false⟩ state =
        (printed, trace, .ok ())) ∧
      (∃ trace, engine.runLine ⟨grepRaw, "grep", flags ++ [pattern, file], [], want, false⟩ state =
        (state.recordAny inFile.recorded, trace, want.ending inFile)) ∧
      (∃ trace, engine.runLine ⟨stdoutRaw, "stdout", flags ++ [pattern], [], want, false⟩ printed =
        (printed.recordAny inOutput.recorded, trace, want.ending inOutput)) ∧
      Builtin.SameSearch pattern file "stdout" inFile inOutput := by
  intro text printed inFile inOutput
  have runs (name : String) (known : name ∈ ["cat", "grep", "stdout"]) {command : Command}
      (found : Builtin.commands.find? name = some command) (raw : String) (args : List String)
      (want : Script.Expect) (state : State) :
      ∃ trace, engine.runLine ⟨raw, name, args, [], want, false⟩ state =
        ((command.perform args state).1.recordAny (command.perform args state).2.recorded, trace,
          want.ending (command.perform args state).2) :=
    @runLine_upshot engine state ⟨raw, name, args, [], want, false⟩ command rfl rfl
      ((knows name known).trans found)
  refine ⟨?_, ?_, ?_, Builtin.Verdict.sameSearch pattern file "stdout" _⟩
  · have ran := runs "cat" (by simp) rfl catRaw [file] .success state
    rwa [Builtin.perform_cat _ reads] at ran
  · have ran := runs "grep" (by simp) rfl grepRaw (flags ++ [pattern, file]) want state
    rwa [Builtin.perform_grep dashed plain _ reads] at ran
  · have ran := runs "stdout" (by simp) rfl stdoutRaw (flags ++ [pattern]) want printed
    rwa [Builtin.perform_searchStdout dashed plain] at ran

/-- Bytes that form no character are searched as they are printed. -/
theorem runLine_searches_replaced :
    let bytes : List UInt8 := [97, 13, 10, 255, 97]
    let machine := { Machine.empty with store := ⟨⟨[(["f"], .file bytes false)]⟩, some []⟩ }
    let state := State.start machine "/" .empty
    let flags := ["-q", "-count=2"]
    standard.Knows ["cat", "grep", "stdout"] ∧ Builtin.Reads state.toScene "f" bytes ∧
      (∀ flag ∈ flags, Builtin.IsFlag flag) ∧ ¬Builtin.IsFlag "a" ∧
      (∃ trace, standard.runLine ⟨"grep", "grep", flags ++ ["a", "f"], [], .success, false⟩ state =
        (state, trace, .ok ())) ∧
      ∃ trace, standard.runLine ⟨"stdout", "stdout", flags ++ ["a"], [], .success, false⟩
          (state.record ⟨"a\n\uFFFDa", ""⟩) =
        (state.record ⟨"a\n\uFFFDa", ""⟩, trace, .ok ()) := by
  intro bytes machine state flags
  have knows : standard.Knows ["cat", "grep", "stdout"] := fun _ _ => rfl
  have found : machine.store.resolve true "/f" = .ok ⟨["f"], some (.file bytes false)⟩ :=
    @Files.Store.resolve_single machine.store true "/f" "f" [] _ (by decide) rfl rfl (by decide)
      rfl (by simp)
  have reads : Builtin.Reads state.toScene "f" bytes :=
    ⟨"/f", @Scene.resolve_untilded state.toScene "/" "f" rfl rfl, by decide,
      Files.Store.readFile_of_resolve found rfl⟩
  have dashed : ∀ flag ∈ flags, Builtin.IsFlag flag := by decide
  have plain : ¬Builtin.IsFlag "a" := by decide
  have text : Builtin.textOf bytes = "a\n\uFFFDa" := by decide +kernel
  have verdict : Builtin.verdict state.machine flags "a" "a\n\uFFFDa" = .counted 2 (some 2) := rfl
  obtain ⟨_, inFile, inOutput, _⟩ :=
    runLine_searches knows reads dashed plain .success "cat" "grep" "stdout"
  rw [text, verdict] at inFile inOutput
  exact ⟨knows, reads, dashed, plain, inFile, inOutput⟩

end Engine

end LineScript
