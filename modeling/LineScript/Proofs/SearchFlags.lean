import LineScript.Proofs.Containment
import LineScript.Proofs.Searches

/-!
# Flags of searches
Searches know two flags. They are read from the left, and the first that is wrong decides, so what
they say together is known only if all are sound; then the last count is the one that is wanted
(`wanted_words`). A search is told wrongly by its flags, by its pattern or by the number of its
words, in this order. Otherwise it looks for its text, and counts (`Answers`).

The compiler of patterns has more ways to refuse one than by a defect. Only defects are reported as
wrong usage; the rest is raised as it is (`search_laws_clash`).
-/
namespace LineScript.Builtin

/-! ## What flags say -/

/-- A flag of a search: to be quiet, which says nothing, or a count by its digits. -/
inductive SearchFlag where
  | quiet
  | count (digits : String)
  deriving DecidableEq

namespace SearchFlag

def word : SearchFlag → String
  | quiet => "-q"
  | count digits => "-count=" ++ digits

/-- The number of matches that the flag asks for. -/
def said : SearchFlag → Option Int
  | quiet => none
  | count digits => Numeral.readInteger? digits

/-- A count must be a number, and a positive one. -/
def Sound : SearchFlag → Prop
  | quiet => True
  | count digits => ∃ number, Numeral.readInteger? digits = some number ∧ 1 ≤ number

theorem toList_count (digits : String) :
    (word (.count digits)).toList = countFlag ++ digits.toList :=
  String.toList_append

theorem isFlag_word (flag : SearchFlag) : IsFlag flag.word := by
  cases flag with
  | quiet => rfl
  | count digits => rw [IsFlag, toList_count]; rfl

theorem readFlag_count (digits : String) :
    readFlag (word (.count digits)) = (Numeral.readInteger? digits).elim
      (.error (.invalidCount (word (.count digits))))
      fun number => if number < 1 then .error .countTooSmall else .ok (some number) := by
  have front : countFlag.isPrefixOf (word (.count digits)).toList = true := by
    rw [toList_count, List.isPrefixOf_iff_prefix]
    exact List.prefix_append _ _
  have loud : word (.count digits) ≠ "-q" := by
    intro quiet
    rw [quiet] at front
    exact absurd front (by decide)
  have behind : String.ofList ((word (.count digits)).toList.drop countFlag.length) = digits := by
    rw [toList_count, List.drop_left, String.ofList_toList]
  rw [readFlag, if_neg loud, if_pos front, behind]
  cases Numeral.readInteger? digits <;> rfl

theorem readFlag_sound {flag : SearchFlag} (sound : flag.Sound) :
    readFlag flag.word = .ok flag.said := by
  cases flag with
  | quiet => rfl
  | count digits =>
    obtain ⟨number, reads, positive⟩ := sound
    simp [readFlag_count, said, reads, Int.not_lt.mpr positive]

theorem readFlag_unsound {flag : SearchFlag} (unsound : ¬flag.Sound) :
    ∃ fault, readFlag flag.word = .error fault := by
  cases flag with
  | quiet => exact absurd trivial unsound
  | count digits =>
    rw [readFlag_count]
    cases reads : Numeral.readInteger? digits with
    | none => exact ⟨_, rfl⟩
    | some number =>
      have small : number < 1 := by
        by_contra positive
        exact unsound ⟨number, reads, by omega⟩
      exact ⟨_, if_pos small⟩

theorem readFlag_foreign {foreign : String} (unknown : ∀ flag, foreign ≠ word flag) :
    readFlag foreign = .error (.unknownFlag foreign) := by
  have loud : foreign ≠ "-q" := unknown .quiet
  have other : ¬countFlag.isPrefixOf foreign.toList = true := by
    rw [List.isPrefixOf_iff_prefix]
    rintro ⟨digits, written⟩
    refine unknown (.count (String.ofList digits)) (String.toList_injective ?_)
    rw [toList_count, String.toList_ofList, written]
  rw [readFlag, if_neg loud, if_neg other]

end SearchFlag

/-! ## What they say together -/

section
variable (flags : List SearchFlag)

def flagWords : List String := flags.map SearchFlag.word

/-- The last of the numbers that the flags ask for. -/
def lastCount : Option Int := (flags.filterMap SearchFlag.said).getLast?

theorem isFlag_flagWords : ∀ word ∈ flagWords flags, IsFlag word := by
  simpa only [flagWords, List.forall_mem_map] using fun flag _ => flag.isFlag_word

theorem lastCount_cons (flag : SearchFlag) :
    lastCount (flag :: flags) = (lastCount flags).or flag.said := by
  rw [lastCount, lastCount, List.filterMap_cons]
  cases flag.said with
  | none => simp
  | some number =>
    rw [List.getLast?_cons]
    cases (flags.filterMap SearchFlag.said).getLast? <;> rfl

variable {flags}

/-- Sound flags ask for the last count, or for the one that was asked for before them. -/
theorem wanted_words (sound : ∀ flag ∈ flags, flag.Sound) (count : Option Int) :
    wanted count (flagWords flags) = .ok ((lastCount flags).or count) := by
  induction flags generalizing count with
  | nil => rfl
  | cons flag flags ih =>
    rw [List.forall_mem_cons] at sound
    have read := SearchFlag.readFlag_sound sound.1
    rw [lastCount_cons, Option.or_assoc]
    simpa only [flagWords, List.map_cons, wanted, read] using ih sound.2 (flag.said.or count)

/-- One unsound flag among them is enough. -/
theorem wanted_unsound (unsound : ¬∀ flag ∈ flags, flag.Sound) (count : Option Int) :
    ∃ fault, wanted count (flagWords flags) = .error fault := by
  induction flags generalizing count with
  | nil => simp at unsound
  | cons flag flags ih =>
    simp only [flagWords, List.map_cons, wanted]
    by_cases first : flag.Sound
    · rw [SearchFlag.readFlag_sound first]
      exact ih (fun rest => unsound (List.forall_mem_cons.mpr ⟨first, rest⟩)) _
    · obtain ⟨fault, refused⟩ := SearchFlag.readFlag_unsound first
      exact ⟨fault, by rw [refused]⟩

/-- To be quiet says nothing, wherever it stands. -/
theorem wanted_loud (count : Option Int) :
    wanted count (flagWords (flags.filter (· ≠ .quiet))) = wanted count (flagWords flags) := by
  induction flags generalizing count with
  | nil => rfl
  | cons flag flags ih =>
    cases flag with
    | quiet => exact ih count
    | count digits =>
      rw [List.filter_cons_of_pos (by simp)]
      simp only [flagWords, List.map_cons, wanted] at ih ⊢
      cases readFlag (SearchFlag.word (.count digits)) with
      | ok said => exact ih _
      | error fault => rfl

/-- A word that looks like a flag, and has words behind it, is taken for one. -/
theorem takeFlags_foreign {foreign : String} (dashed : IsFlag foreign)
    (unknown : ∀ flag, foreign ≠ SearchFlag.word flag) {rest : List String} (more : rest ≠ [])
    (count : Option Int) :
    ∃ fault, takeFlags count (flagWords flags ++ foreign :: rest) = .error fault := by
  induction flags generalizing count with
  | nil =>
    refine ⟨.unknownFlag foreign, ?_⟩
    rw [flagWords, List.map_nil, List.nil_append, takeFlags, if_pos dashed,
      SearchFlag.readFlag_foreign unknown]
    simpa using more
  | cons flag flags ih =>
    rw [flagWords, List.map_cons, List.cons_append, takeFlags, if_pos flag.isFlag_word]
    · cases readFlag flag.word with
      | ok said => exact ih _
      | error fault => exact ⟨fault, rfl⟩
    · simp

end

/-! ## What is searched -/

/-- The number of words that a search takes behind its pattern. -/
def wordsBehind (name : String) : Nat := if name = "grep" then 1 else 0

/-- The text that a search by this name looks in, with these words behind its pattern. -/
def Searched (state : State) (name text : String) : List String → Prop
  | [] => name = "stdout" ∧ text = state.last.stdout ∨ name = "stderr" ∧ text = state.last.stderr
  | [file] => name = "grep" ∧ ∃ bytes, Reads state.toScene file bytes ∧ text = textOf bytes
  | _ => False

/-- A command searches in what is found by the words behind the pattern. -/
structure Looks (name : String) (command : Command) (state : State)
    (content : List String → Except Fault (String × String)) : Prop where
  perform (args : List String) :
    command.perform args state = (replyOf (search state.machine content args)).settle state
  found {text : String} {rest : List String} (searched : Searched state name text rest) :
    ∃ shown, content rest = .ok (text, shown)
  refused {rest : List String} (wrong : rest.length ≠ wordsBehind name) :
    content rest = .error (.usage .arguments)

theorem exists_looks_last {name : String} (alone : wordsBehind name = 0) {state : State}
    {text : String} (searched : ∀ found, Searched state name found [] → found = text)
    (filed : name ≠ "grep") {command : Command} {shown : String}
    (perform : ∀ args, command.perform args state =
      (replyOf (searchLast state.machine text shown args)).settle state) :
    ∃ content, Looks name command state content := by
  refine ⟨_, perform, ?_, ?_⟩
  · rintro found (_ | ⟨file, _ | _⟩) looked
    · exact ⟨shown, by rw [searched found looked]; rfl⟩
    · exact absurd looked.1 filed
    · exact looked.elim
  · rintro (_ | ⟨word, rest⟩) wrong
    · exact absurd alone.symm wrong
    · rfl

theorem exists_looks {name : String} (searching : name ∈ searches) {command : Command}
    (known : commands.find? name = some command) (state : State) :
    ∃ content, Looks name command state content := by
  simp only [searches, List.mem_cons, List.not_mem_nil, or_false] at searching
  obtain rfl | rfl | rfl := searching <;> cases known
  · refine ⟨_, fun args => perform_looking _ _ _ _, ?_, ?_⟩
    · rintro text (_ | ⟨file, _ | _⟩) searched
      · simp [Searched] at searched
      · obtain ⟨-, bytes, reads, rfl⟩ := searched
        exact ⟨file, by simp [readText_of_reads reads, bind, Except.bind, pure, Except.pure]⟩
      · exact searched.elim
    · intro rest wrong
      match rest, wrong with
      | [], _ => rfl
      | _ :: _ :: _, _ => rfl
  · exact exists_looks_last rfl (by simp [Searched]) (by decide) fun args => rfl
  · exact exists_looks_last rfl (by simp [Searched]) (by decide) fun args => rfl

/-! ## How a search ends -/

/-- As many matches as asked for, or at least one if no number is. -/
def Wanted (found : Nat) : Option Int → Prop
  | some count => (found : Int) = count
  | none => 1 ≤ found

theorem judge_eq_ok (found : Nat) (count : Option Int) (pattern name : String) :
    judge found count pattern name = .ok () ↔ Wanted found count := by
  cases count <;> simp [judge, Wanted, Nat.one_le_iff_ne_zero]

theorem patternFault_injective : Function.Injective patternFault := by
  intro one two same
  cases one <;> cases two <;> simp_all [patternFault]

theorem patternFault_eq_usage {problem : Pattern.Problem} {fault : UsageFault} :
    patternFault problem = .usage fault ↔
      ∃ defect, problem = .defect defect ∧ fault = .invalidPattern defect := by
  cases problem <;> simp [patternFault, eq_comm]

theorem patternFault_ne_command (problem : Pattern.Problem) (failure : Failure) (output : Output) :
    patternFault problem ≠ .command failure output := by
  cases problem <;> simp [patternFault]

section
variable (names : String → Option Nat) (name : String) (flags : List SearchFlag)
  (pattern : String) (rest : List String)

/-- A search is told wrongly: by a flag, by a defect of its pattern, or by the number of words. -/
def Misused : Prop :=
  (∃ flag ∈ flags, ¬flag.Sound) ∨
    (∃ defect, Pattern.compile names pattern = .error (.defect defect)) ∨
    (∃ compiled, Pattern.compile names pattern = .ok compiled) ∧ rest.length ≠ wordsBehind name

/-- A search is told rightly, and looks for the pattern that is compiled. -/
structure Asked (compiled : Pattern) : Prop where
  sound : ∀ flag ∈ flags, flag.Sound
  compiles : Pattern.compile names pattern = .ok compiled
  words : rest.length = wordsBehind name

/-- How a search ends that is called with these flags, pattern and words behind it. The text is the
one that it looks in if the words are as many as it takes. -/
structure Answers (text : String) (upshot : Upshot) : Prop where
  misused : (∃ fault, upshot = .error (.usage fault)) ↔ Misused names name flags pattern rest
  succeeds : upshot = .ok none ↔ ∃ compiled, Asked names name flags pattern rest compiled ∧
    Wanted (compiled.count text) (lastCount flags)
  fails : (∃ failure output, upshot = .error (.command failure output)) ↔
    ∃ compiled, Asked names name flags pattern rest compiled ∧
      ¬Wanted (compiled.count text) (lastCount flags)
  raises : ∀ problem, (∀ defect, problem ≠ .defect defect) →
    (upshot = .error (patternFault problem) ↔
      (∀ flag ∈ flags, flag.Sound) ∧ Pattern.compile names pattern = .error problem)

variable {names name flags pattern rest} {text : String}

theorem not_misused_of_refused (sound : ∀ flag ∈ flags, flag.Sound) {problem : Pattern.Problem}
    (refused : Pattern.compile names pattern = .error problem)
    (other : ∀ defect, problem ≠ .defect defect) : ¬Misused names name flags pattern rest := by
  rintro (⟨flag, among, unsound⟩ | ⟨defect, found⟩ | ⟨⟨compiled, found⟩, -⟩)
  · exact unsound (sound flag among)
  · exact other defect (Except.error.inj (refused.symm.trans found))
  · exact absurd (refused.symm.trans found) (by simp)

namespace Asked

variable {compiled : Pattern} (asked : Asked names name flags pattern rest compiled)
include asked

theorem not_misused : ¬Misused names name flags pattern rest := by
  rintro (⟨flag, among, unsound⟩ | ⟨defect, refused⟩ | ⟨-, wrong⟩)
  · exact unsound (asked.sound flag among)
  · exact absurd (asked.compiles.symm.trans refused) (by simp)
  · exact wrong asked.words

theorem not_refused (problem : Pattern.Problem) :
    Pattern.compile names pattern ≠ .error problem := by
  simp [asked.compiles]

theorem exists_iff {holds : Pattern → Prop} :
    (∃ other, Asked names name flags pattern rest other ∧ holds other) ↔ holds compiled := by
  refine ⟨?_, fun held => ⟨compiled, asked, held⟩⟩
  rintro ⟨other, again, held⟩
  have same : other = compiled := Except.ok.inj (again.compiles.symm.trans asked.compiles)
  exact same ▸ held

end Asked

/-! Each way to end answers the call it comes from. -/

theorem answers_misused (wrong : Misused names name flags pattern rest) (fault : UsageFault) :
    Answers names name flags pattern rest text (.error (.usage fault)) where
  misused := iff_of_true ⟨fault, rfl⟩ wrong
  succeeds := iff_of_false (by simp) fun ⟨_, asked, _⟩ => asked.not_misused wrong
  fails := iff_of_false (by simp) fun ⟨_, asked, _⟩ => asked.not_misused wrong
  raises problem other := by
    refine iff_of_false ?_ fun ⟨sound, refused⟩ =>
      not_misused_of_refused sound refused other wrong
    intro same
    obtain ⟨defect, found, -⟩ := patternFault_eq_usage.mp (Except.error.inj same).symm
    exact other defect found

theorem answers_raised (sound : ∀ flag ∈ flags, flag.Sound) {problem : Pattern.Problem}
    (refused : Pattern.compile names pattern = .error problem)
    (other : ∀ defect, problem ≠ .defect defect) :
    Answers names name flags pattern rest text (.error (patternFault problem)) where
  misused := by
    refine iff_of_false ?_ (not_misused_of_refused sound refused other)
    rintro ⟨fault, same⟩
    obtain ⟨defect, found, -⟩ := patternFault_eq_usage.mp (Except.error.inj same)
    exact other defect found
  succeeds := iff_of_false (by simp) fun ⟨_, asked, _⟩ => asked.not_refused problem refused
  fails := iff_of_false (by simp [patternFault_ne_command]) fun ⟨_, asked, _⟩ =>
    asked.not_refused problem refused
  raises another _ := by
    rw [Except.error.injEq, patternFault_injective.eq_iff, refused, Except.error.injEq]
    exact (and_iff_right sound).symm

section
variable {compiled : Pattern} (asked : Asked names name flags pattern rest compiled)
include asked

theorem answers_done (fits : Wanted (compiled.count text) (lastCount flags)) :
    Answers names name flags pattern rest text (.ok none) where
  misused := iff_of_false (by simp) asked.not_misused
  succeeds := iff_of_true rfl (asked.exists_iff.mpr fits)
  fails := iff_of_false (by simp) fun misfits => asked.exists_iff.mp misfits fits
  raises problem _ := iff_of_false (by simp) fun refused => asked.not_refused problem refused.2

theorem answers_failed (misfits : ¬Wanted (compiled.count text) (lastCount flags))
    (failure : Failure) :
    Answers names name flags pattern rest text (.error (.failure failure)) where
  misused := iff_of_false (by simp [Fault.failure]) asked.not_misused
  succeeds := iff_of_false (by simp) fun fits => misfits (asked.exists_iff.mp fits)
  fails := iff_of_true ⟨failure, .empty, rfl⟩ (asked.exists_iff.mpr misfits)
  raises problem _ := by
    refine iff_of_false ?_ fun refused => asked.not_refused problem refused.2
    exact fun same => patternFault_ne_command problem _ _ (Except.error.inj same).symm

end

end

theorem Looks.answers {name : String} {command : Command} {state : State}
    {content : List String → Except Fault (String × String)}
    (looks : Looks name command state content) {flags : List SearchFlag} {pattern : String}
    {rest : List String} (placed : ¬IsFlag pattern ∨ rest = []) {text : String}
    (searched : rest.length = wordsBehind name → Searched state name text rest) :
    (command.perform (flagWords flags ++ pattern :: rest) state).1 = state ∧
      Answers state.machine.platform.character name flags pattern rest text
        (command.perform (flagWords flags ++ pattern :: rest) state).2 := by
  rw [looks.perform, search_append _ content (isFlag_flagWords flags) placed]
  by_cases sound : ∀ flag ∈ flags, flag.Sound
  · rw [wanted_words sound, Option.or_none]
    cases compiles : Pattern.compile state.machine.platform.character pattern with
    | error problem =>
      refine ⟨rfl, ?_⟩
      by_cases defective : ∃ defect, problem = .defect defect
      · obtain ⟨defect, rfl⟩ := defective
        exact answers_misused (.inr (.inl ⟨defect, compiles⟩)) _
      · exact answers_raised sound compiles (not_exists.mp defective)
    | ok compiled =>
      by_cases words : rest.length = wordsBehind name
      · obtain ⟨shown, found⟩ := looks.found (searched words)
        have asked : Asked state.machine.platform.character name flags pattern rest compiled :=
          ⟨sound, compiles, words⟩
        have counted := judge_eq_ok (compiled.count text) (lastCount flags) pattern shown
        simp only [found]
        cases judged : judge (compiled.count text) (lastCount flags) pattern shown with
        | ok _ => exact ⟨rfl, answers_done asked (counted.mp judged)⟩
        | error failure => exact ⟨rfl, answers_failed asked (by simp [← counted, judged]) failure⟩
      · simp only [looks.refused words]
        exact ⟨rfl, answers_misused (.inr (.inr ⟨⟨compiled, compiles⟩, words⟩)) _⟩
  · obtain ⟨fault, refused⟩ := wanted_unsound sound none
    rw [refused]
    exact ⟨rfl, answers_misused (.inl (by simpa using sound)) fault⟩

/-- A search reads its flags, its pattern and the words behind it, in this order, and counts. To be
quiet changes nothing, other flags are refused, and so is a call without any word. -/
theorem search_laws {name : String} (searching : name ∈ searches) {command : Command}
    (known : commands.find? name = some command) (state : State) :
    (∀ flags pattern rest text, ¬IsFlag pattern ∨ rest = [] →
      (rest.length = wordsBehind name → Searched state name text rest) →
      let ended := command.perform (flagWords flags ++ pattern :: rest) state
      ended.1 = state ∧
        Answers state.machine.platform.character name flags pattern rest text ended.2) ∧
    (∀ flags others pattern rest, ¬IsFlag pattern ∨ rest = [] →
      flags.filter (· ≠ .quiet) = others.filter (· ≠ .quiet) →
      command.perform (flagWords flags ++ pattern :: rest) state =
        command.perform (flagWords others ++ pattern :: rest) state) ∧
    (∀ flags foreign rest, IsFlag foreign → (∀ flag, foreign ≠ SearchFlag.word flag) → rest ≠ [] →
      ∃ fault, command.perform (flagWords flags ++ foreign :: rest) state =
        (state, .error (.usage fault))) ∧
    command.perform [] state = (state, .error (.usage .arguments)) := by
  obtain ⟨content, looks⟩ := exists_looks searching known state
  refine ⟨?_, ?_, ?_, ?_⟩
  · intro flags pattern rest text placed searched
    exact looks.answers placed searched
  · intro flags others pattern rest placed same
    have wanted : wanted none (flagWords flags) = wanted none (flagWords others) := by
      rw [← wanted_loud, same, wanted_loud]
    rw [looks.perform, looks.perform, search_append _ content (isFlag_flagWords flags) placed,
      search_append _ content (isFlag_flagWords others) placed, wanted]
  · intro flags foreign rest dashed unknown more
    obtain ⟨fault, refused⟩ := @takeFlags_foreign flags foreign dashed unknown rest more none
    rw [looks.perform, search, refused]
    exact ⟨fault, rfl⟩
  · exact looks.perform []

/-- The last count is the one that matters, with or without being quiet. -/
theorem search_laws_file :
    let bytes := [97, 13, 10, 255, 97]
    let machine := { Machine.empty with store := ⟨⟨[(["f"], .file bytes false)]⟩, some []⟩ }
    let state := State.start machine "/" .empty
    ∃ command, "grep" ∈ searches ∧ commands.find? "grep" = some command ∧
      command.perform ["-count=1", "-q", "-count=2", "a", "f"] state = (state, .ok none) ∧
      command.perform ["-count=1", "-count=2", "a", "f"] state = (state, .ok none) ∧
      ∃ fault, command.perform ["-x", "a", "f"] state = (state, .error (.usage fault)) := by
  intro bytes machine state
  let names := state.machine.platform.character
  obtain ⟨answers, quiet, refused, -⟩ := @search_laws "grep" (by decide) _ rfl state
  have found : machine.store.resolve true "/f" = .ok ⟨["f"], some (.file bytes false)⟩ :=
    @Files.Store.resolve_single machine.store true "/f" "f" [] _ (by decide) rfl rfl (by decide)
      rfl (by simp)
  have reads : Reads state.toScene "f" bytes :=
    ⟨"/f", @Scene.resolve_untilded state.toScene "/" "f" rfl rfl, by decide,
      Files.Store.readFile_of_resolve found rfl⟩
  have text : textOf bytes = "a\n\uFFFDa" := by decide +kernel
  have one : Numeral.readInteger? "1" = some 1 := rfl
  have two : Numeral.readInteger? "2" = some 2 := rfl
  obtain ⟨compiled, compiles, counted⟩ : ∃ compiled, Pattern.compile names "a" = .ok compiled ∧
      compiled.count "a\n\uFFFDa" = 2 :=
    ⟨⟨.char ⟨false, [.code 97], .exact⟩, 1⟩, rfl, rfl⟩
  have asked : Asked names "grep" [.count "1", .quiet, .count "2"] "a" ["f"] compiled :=
    ⟨by simp [SearchFlag.Sound, one, two], compiles, rfl⟩
  have last : lastCount [.count "1", .quiet, .count "2"] = some 2 := rfl
  have ended := answers [.count "1", .quiet, .count "2"] "a" ["f"] "a\n\uFFFDa"
    (.inl (by decide)) fun _ => ⟨rfl, _, reads, text.symm⟩
  have found := ended.2.succeeds.mpr ⟨compiled, asked, by rw [counted, last]; rfl⟩
  have same := quiet [.count "1", .quiet, .count "2"] [.count "1", .count "2"] "a" ["f"]
    (.inl (by decide)) (by decide)
  refine ⟨_, by decide, rfl, Prod.ext ended.1 found, same ▸ Prod.ext ended.1 found, ?_⟩
  refine refused [] "-x" ["a", "f"] (by decide) ?_ (by simp)
  rintro (_ | digits) same
  · exact absurd same (by decide)
  · simpa [SearchFlag.word] using congrArg String.toList same

/-- A pattern whose flags clash does not compile, and is not reported as wrong usage. -/
theorem search_laws_clash :
    let state := State.start .empty "/" .empty
    Pattern.compile state.machine.platform.character "(?a)(?u)x" = .error .clashingFlags ∧
      ∃ command, commands.find? "stdout" = some command ∧
        command.perform ["(?a)(?u)x"] state = (state, .error (.value .clashingFlags)) := by
  intro state
  refine ⟨compile_clash, _, rfl, ?_⟩
  rw [perform_looking, searchStdout, searchLast, search, show state.machine = .empty from rfl]
  simp only [takeFlags, compile_clash]
  rfl

end LineScript.Builtin
