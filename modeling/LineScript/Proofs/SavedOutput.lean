import LineScript.Proofs.Decoding
import LineScript.Proofs.Searches

/-!
# Saved output reads back
A stream of the last output is saved by its name, and printed again from the file: the bytes that
were written last are read (`Store.readFile_writeFile`), as the characters that they were written
for, and only carriage returns are lost on the way (`unifyLineEnds_eq`). The last output itself is
left as it is, so that it can be saved again (`runLine_saves`).
-/
namespace LineScript

/-! ## Files -/

namespace Files

theorem Tree.find?_insert_ne (tree : Tree) {location other : Location} (differs : other ≠ location)
    (node : Node) : (tree.insert location node).find? other = tree.find? other := by
  have passed : (other == location) = false := by simpa using differs
  unfold find?
  split
  · rfl
  · rw [insert, List.lookup_cons, passed, erase]
    have kept : ∀ entries : List (Location × Node),
        (entries.filter (·.1 != location)).lookup other = entries.lookup other := by
      intro entries
      induction entries with
      | nil => rfl
      | cons entry rest ih =>
        by_cases own : entry.1 = location
        · rw [List.filter_cons_of_neg (by simpa using own), ih, List.lookup_cons, own, passed]
        · rw [List.filter_cons_of_pos (by simpa using own), List.lookup_cons, List.lookup_cons, ih]
    exact kept tree.entries

theorem node_of_walk {tree : Tree} {follow : Bool} {links : Nat} {here : Location}
    {names : List String} {place : Place}
    (walked : walk tree follow links here names = .ok place) :
    place.node = tree.find? place.location := by
  fun_induction walk tree follow links here names with
  | case1 =>
    cases walked
    rfl
  | case2 _ _ _ ih => exact ih walked
  | case3 _ _ _ _ ih => exact ih walked
  | case5 _ _ _ _ _ _ _ location found =>
    cases walked
    exact found.symm
  | case7 _ _ _ _ _ _ _ _ _ ih => exact ih walked
  | case8 _ _ _ _ _ _ _ location target found =>
    cases walked
    exact found.symm
  | case10 _ _ _ _ _ _ _ _ _ _ _ _ ih => exact ih walked
  | case11 _ _ _ _ _ _ _ location node _ _ found =>
    cases walked
    exact found.symm
  | case4 | case6 | case9 | case12 => cases walked

/-- A place that a plain file can be written at: one stands there already, or nothing at all. -/
def Place.IsPlain (place : Place) : Prop :=
  place.node = none ∨ ∃ bytes executable, place.node = some (.file bytes executable)

namespace Place.IsPlain

variable {tree : Tree} {place : Place} (plain : place.IsPlain)
  (stands : place.node = tree.find? place.location)
include plain stands

theorem ne_root : place.location ≠ [] := by
  intro root
  rw [root] at stands
  rcases plain with none | ⟨_, _, file⟩
  · simp [none, Tree.find?] at stands
  · simp [file, Tree.find?] at stands

/-- What is passed on the way to another place does not stand there. -/
theorem ne_passed {location : Location} {other : Node} (found : tree.find? location = some other)
    (through : other = .directory ∨ ∃ target, other = .link target) :
    location ≠ place.location := by
  rintro rfl
  rw [found] at stands
  rcases plain with none | ⟨_, _, file⟩
  · simp [none] at stands
  · rw [stands] at file
    rcases through with rfl | ⟨target, rfl⟩ <;> simp at file

end Place.IsPlain

theorem walk_of_file {tree : Tree} {follow : Bool} {links : Nat} {here : Location} {name : String}
    {rest : List String} {bytes : List UInt8} {executable : Bool} (own : name ≠ ".")
    (down : name ≠ "..") (short : ¬maxName < name.utf8ByteSize)
    (found : tree.find? (here ++ [name]) = some (.file bytes executable))
    (last : rest.isEmpty = true) : walk tree follow links here (name :: rest) =
      .ok ⟨here ++ [name], some (.file bytes executable)⟩ := by
  rw [walk, if_neg own, if_neg down, if_neg short]
  simp [found, last]

/-- A path still leads to the place where a file was written: nothing else on the way has changed,
since neither a directory nor a link stands there. -/
theorem walk_insert {tree : Tree} {links : Nat} {here : Location} {names : List String}
    {place : Place} (walked : walk tree true links here names = .ok place) (plain : place.IsPlain)
    (bytes : List UInt8) (executable : Bool) :
    walk (tree.insert place.location (.file bytes executable)) true links here names =
      .ok ⟨place.location, some (.file bytes executable)⟩ := by
  have node := node_of_walk walked
  have deep := plain.ne_root node
  have passed {location : Location} {other : Node} (found : tree.find? location = some other)
      (through : other = .directory ∨ ∃ target, other = .link target) :
      (tree.insert place.location (.file bytes executable)).find? location = some other :=
    (tree.find?_insert_ne (plain.ne_passed node found through) _).trans found
  have there : (tree.insert place.location (.file bytes executable)).find? place.location =
      some (.file bytes executable) := Tree.find?_insert tree _ deep
  fun_induction walk tree true links here names with
  | case1 =>
    cases walked
    rw [walk, there]
  | case2 _ _ _ ih =>
    rw [walk]
    simpa using ih walked
  | case3 _ _ _ _ ih =>
    rw [walk]
    simpa using ih walked
  | case5 links here name rest own down short location found last =>
    cases walked
    exact walk_of_file own down short there last
  | case7 links here name rest own down short location found ih =>
    rw [walk, if_neg own, if_neg down, if_neg short]
    simp only [location] at found ih walked
    simp only [passed found (.inl rfl)]
    exact ih walked
  | case8 links here name rest own down short location target found other => simp at other
  | case10 here name rest own down short location target found followed links base ih =>
    rw [walk, if_neg own, if_neg down, if_neg short]
    simp only [location, base] at found ih walked
    simp only [passed found (.inr ⟨target, rfl⟩)]
    simpa using ih walked
  | case11 links here name rest own down short location other _ _ found last =>
    cases walked
    exact walk_of_file own down short there last
  | case4 | case6 | case9 | case12 => cases walked

namespace Store

/-- The path leads to a place that a plain file can be written at. -/
def IsPlain (store : Store) (path : String) : Prop :=
  ∃ place, store.resolve true path = .ok place ∧ place.IsPlain

variable {store : Store} {path : String}

theorem resolve_insert {place : Place} (resolved : store.resolve true path = .ok place)
    (plain : place.IsPlain) (bytes : List UInt8) (executable : Bool) :
    resolve { store with tree := store.tree.insert place.location (.file bytes executable) }
      true path = .ok ⟨place.location, some (.file bytes executable)⟩ := by
  unfold resolve at resolved ⊢
  split at resolved
  · cases resolved
  split at resolved
  · cases resolved
  rw [if_neg ‹_›, if_neg ‹_›]
  split at resolved
  · rw [if_pos ‹_›]
    exact walk_insert resolved plain bytes executable
  · rw [if_neg ‹_›]
    split at resolved
    · cases resolved
    · rename_i here known
      simp only [known]
      exact walk_insert resolved plain bytes executable

theorem IsPlain.isDirectory (plain : store.IsPlain path) : store.isDirectory path = false := by
  obtain ⟨place, resolved, vacant | ⟨bytes, executable, file⟩⟩ := plain
  · unfold Store.isDirectory stat?
    split
    · rfl
    · rw [stat_of_resolve_none resolved vacant]
      rfl
  · unfold Store.isDirectory stat?
    split
    · rfl
    · rw [stat_of_resolve resolved file]
      rfl

/-- What is written to a plain file is what is read from it. -/
theorem readFile_writeFile (plain : store.IsPlain path) (bytes : List UInt8) :
    ∃ after, store.writeFile path bytes = .ok after ∧ after.readFile path = .ok bytes := by
  obtain ⟨place, resolved, shape⟩ := plain
  have written (executable : Bool) := resolve_insert resolved shape bytes executable
  rcases shape with none | ⟨old, executable, file⟩
  · refine ⟨_, ?_, readFile_of_resolve (written false) rfl⟩
    simp [writeFile, resolved, none, bind, Except.bind, pure, Except.pure]
  · refine ⟨_, ?_, readFile_of_resolve (written executable) rfl⟩
    simp [writeFile, resolved, file, bind, Except.bind, pure, Except.pure]

end Store

end Files

/-! ## Line ends -/

namespace Text

/-- The text without the carriage returns that a line feed follows. -/
def dropReturns : List Char → List Char
  | [] => []
  | '\r' :: '\n' :: rest => '\n' :: dropReturns rest
  | c :: rest => c :: dropReturns rest

/-- A carriage return that is left becomes a line feed. -/
def returnToFeed (c : Char) : Char := if c = '\r' then '\n' else c

/-- Line ends are unified in two passes: first those of two characters become one line feed each,
and then every carriage return does. -/
theorem unifyLineEnds_eq (cs : List Char) :
    unifyLineEnds cs = (dropReturns cs).map returnToFeed := by
  fun_induction unifyLineEnds cs with
  | case1 => rfl
  | case2 rest ih =>
    rw [dropReturns, List.map_cons, ih]
    rfl
  | case3 rest other ih =>
    rw [dropReturns, List.map_cons, ih]
    · rfl
    · simpa using other
  | case4 c rest _ other ih =>
    have kept : returnToFeed c = c := if_neg other
    rw [dropReturns, List.map_cons, ih, kept]
    exact fun _ same => absurd same other

theorem unifyLineEnds_of_none {cs : List Char} (none : '\r' ∉ cs) : unifyLineEnds cs = cs := by
  induction cs with
  | nil => rfl
  | cons c rest ih =>
    obtain ⟨first, others⟩ := List.ne_and_not_mem_of_not_mem_cons none
    rw [unifyLineEnds, ih others]
    · exact fun _ same => absurd same.symm first
    · exact fun same => first same.symm

end Text

/-! ## Streams -/

/-- A stream of an output by its name. -/
def Output.named (output : Output) : String → Option String
  | "stdout" => some output.stdout
  | "stderr" => some output.stderr
  | _ => none

/-- The name leads to a plain file, or to nothing in a directory that is there. -/
def Scene.NamesFile (scene : Scene) (name : String) : Prop :=
  ∃ path, scene.resolve name = .ok path ∧ Files.Store.hasNul path = false ∧
    scene.machine.store.IsPlain path

namespace Builtin

theorem copyOne_stream {scene : Scene} {source text : String}
    (said : scene.last.named source = some text) {target : String}
    (whole : Files.Store.hasNul target = false) {store after : Files.Store}
    (written : store.writeFile target (Text.Utf8.encode text) = .ok after) :
    copyOne scene target false source store = (after, .ok ()) := by
  have saved : attempt [target] (·.writeFile target (Text.Utf8.encode text)) store =
      (after, .ok ()) := by
    simp [attempt, whole, written]
  unfold Output.named at said
  split at said
  · cases said
    exact saved
  · cases said
    exact saved
  · cases said

/-- A stream is saved in a plain file, and nothing else of the scene is changed. -/
theorem perform_cp (usage : CommandUsage) {state : State} {source text file : String}
    (said : state.last.named source = some text) (names : state.NamesFile file) : ∃ store,
    (filing usage cp).perform [source, file] state =
        ({ state with toScene := state.toScene.withStore store }, .ok none) ∧
      Reads (state.toScene.withStore store) file (Text.Utf8.encode text) := by
  obtain ⟨path, resolved, whole, plain⟩ := names
  obtain ⟨store, written, read⟩ := Files.Store.readFile_writeFile plain (Text.Utf8.encode text)
  have copied : cp [source, file] state.toScene state.machine.store = (store, .ok ()) := by
    have one := copyOne_stream said whole written
    simp [cp, resolved, plain.isDirectory, forEach, one]
  refine ⟨store, ?_, path, resolved, whole, read⟩
  simp only [Command.perform, Command.run, filing, changing, copied]
  rfl

/-- What was written is read again but for its line ends. -/
theorem textOf_encode (text : String) : textOf (Text.Utf8.encode text) =
    String.ofList ((Text.dropReturns text.toList).map Text.returnToFeed) := by
  rw [textOf, Text.Utf8.encode, Text.Utf8.decodeChars_encodeChars, Text.unifyLineEnds_eq]

end Builtin

/-! ## Lines that save and print -/

namespace Engine

variable {engine : Engine}

/-- A line that saves a stream leaves all but the files as they were. From then on, for as long as
the file is not written to, the stream is printed of it, with a line feed for every line end; and
for as long as the last output is the same, it is saved again as the same text. -/
theorem runLine_saves (knows : engine.Knows ["cat", "cp"]) {state : State}
    {source text file : String} (said : state.last.named source = some text)
    (names : state.NamesFile file) (cpRaw catRaw againRaw : String) : ∃ store,
    let after : State := { state with toScene := state.toScene.withStore store }
    let printed := String.ofList ((Text.dropReturns text.toList).map Text.returnToFeed)
    (∃ trace, engine.runLine ⟨cpRaw, "cp", [source, file], [], .success, false⟩ state =
        (after, trace, .ok ())) ∧
      Builtin.Reads after.toScene file (Text.Utf8.encode text) ∧
      (∀ later : State, (∀ bytes, Builtin.Reads after.toScene file bytes →
          Builtin.Reads later.toScene file bytes) →
        ∃ trace, engine.runLine ⟨catRaw, "cat", [file], [], .success, false⟩ later =
          (later.record ⟨printed, ""⟩, trace, .ok ())) ∧
      ('\r' ∉ text.toList → printed = text) ∧
      ∀ (later : State) (other : String), later.last = state.last → later.NamesFile other →
        ∃ again, (∃ trace,
            engine.runLine ⟨againRaw, "cp", [source, other], [], .success, false⟩ later =
              (again, trace, .ok ())) ∧
          again.last = state.last ∧ Builtin.Reads again.toScene other (Text.Utf8.encode text) := by
  have saves (later : State) (said : later.last.named source = some text) (other : String)
      (names : later.NamesFile other) (raw : String) : ∃ store,
      (∃ trace, engine.runLine ⟨raw, "cp", [source, other], [], .success, false⟩ later =
        ({ later with toScene := later.toScene.withStore store }, trace, .ok ())) ∧
      Builtin.Reads (later.toScene.withStore store) other (Text.Utf8.encode text) := by
    obtain ⟨store, performed, reads⟩ := Builtin.perform_cp _ said names
    have known : "cp" ∈ ["cat", "cp"] := by simp
    obtain ⟨trace, ran⟩ := knows.runLine known rfl raw [source, other] .success later
    rw [performed] at ran
    exact ⟨store, ⟨trace, ran⟩, reads⟩
  obtain ⟨store, ran, reads⟩ := saves state said file names cpRaw
  refine ⟨store, ran, reads, fun later kept => ?_, fun none => ?_, fun later other same plain => ?_⟩
  · have known : "cat" ∈ ["cat", "cp"] := by simp
    obtain ⟨trace, ran⟩ := knows.runLine known rfl catRaw [file] .success later
    rw [Builtin.perform_cat _ (kept _ reads), Builtin.textOf_encode] at ran
    exact ⟨trace, ran⟩
  · rw [← Text.unifyLineEnds_eq, Text.unifyLineEnds_of_none none, String.ofList_toList]
  · obtain ⟨store, again, found⟩ := saves later (same ▸ said) other plain againRaw
    exact ⟨_, again, same, found⟩

/-- Line ends of all kinds are printed as line feeds, and the other stream can still be saved. -/
theorem runLine_saves_returns :
    let state := (State.start .empty "/" .empty).record ⟨"a\r\n\r\r\nb\r", "e"⟩
    standard.Knows ["cat", "cp"] ∧ state.NamesFile "f" ∧ ∃ store,
      let after : State := { state with toScene := state.toScene.withStore store }
      (∃ trace, standard.runLine ⟨"cp", "cp", ["stdout", "f"], [], .success, false⟩ state =
          (after, trace, .ok ())) ∧
        (∃ trace, standard.runLine ⟨"cat", "cat", ["f"], [], .success, false⟩ after =
          (after.record ⟨"a\n\n\nb\n", ""⟩, trace, .ok ())) ∧
        ∃ again trace, standard.runLine ⟨"cp", "cp", ["stderr", "g"], [], .success, false⟩ state =
          (again, trace, .ok ()) := by
  intro state
  have knows : standard.Knows ["cat", "cp"] := fun _ _ => rfl
  have names (name path : String) (resolved : state.resolve name = .ok path)
      (whole : Files.Store.hasNul path = false)
      (empty : state.machine.store.resolve true path = .ok ⟨[name], none⟩) :
      state.NamesFile name := ⟨path, resolved, whole, _, empty, .inl rfl⟩
  have first : state.NamesFile "f" :=
    names "f" "/f" (@Scene.resolve_untilded state.toScene "/" "f" rfl rfl) (by decide)
      (@Files.Store.resolve_single state.machine.store true "/f" "f" [] none (by decide) rfl rfl
        (by decide) rfl (by simp))
  have second : state.NamesFile "g" :=
    names "g" "/g" (@Scene.resolve_untilded state.toScene "/" "g" rfl rfl) (by decide)
      (@Files.Store.resolve_single state.machine.store true "/g" "g" [] none (by decide) rfl rfl
        (by decide) rfl (by simp))
  have said : state.last.named "stdout" = some "a\r\n\r\r\nb\r" := rfl
  have warned : state.last.named "stderr" = some "e" := rfl
  obtain ⟨store, saved, _, printed, _⟩ := runLine_saves knows said first "cp" "cat" "cp"
  obtain ⟨_, again, _⟩ := runLine_saves knows warned second "cp" "cat" "cp"
  exact ⟨knows, first, store, saved, printed _ fun _ reads => reads, _, again⟩

end Engine

end LineScript
