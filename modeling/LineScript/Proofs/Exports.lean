import Mathlib.Data.List.Nodup
import LineScript.Proofs.Background
import LineScript.Proofs.Directories

/-!
# Environments of scripts
An environment names its variables once each, by names that can be set, and it always has the
directory that the script is in, unless a script has set that by hand and entered no directory
since. So an environment that is written out as entries is read again as it was, and a state that is
made of it goes on where the first one was (`environment_laws`).
-/
namespace LineScript

/-! ## Names of tables -/

namespace Table

variable {α : Type}

theorem names_insert_of_mem {table : Table α} {name : String} (known : name ∈ table.names)
    (value : α) : (table.insert name value).names = table.names := by
  obtain ⟨entries⟩ := table
  simp only [insert, names] at known ⊢
  induction entries with
  | nil => simp at known
  | cons entry rest ih =>
    rw [insertEntry]
    by_cases same : entry.1 = name
    · simp [same]
    · rw [if_neg same, List.map_cons, List.map_cons, ih]
      rcases List.mem_cons.mp known with first | later
      · exact absurd first.symm same
      · exact later

theorem entries_insert_of_not_mem {table : Table α} {name : String} (new : name ∉ table.names)
    (value : α) : (table.insert name value).entries = table.entries ++ [(name, value)] := by
  obtain ⟨entries⟩ := table
  simp only [insert, names] at new ⊢
  induction entries with
  | nil => rfl
  | cons entry rest ih =>
    obtain ⟨first, others⟩ := List.ne_and_not_mem_of_not_mem_cons new
    rw [insertEntry, if_neg (Ne.symm first), ih others, List.cons_append]

theorem names_insert_of_not_mem {table : Table α} {name : String} (new : name ∉ table.names)
    (value : α) : (table.insert name value).names = table.names ++ [name] := by
  rw [names, entries_insert_of_not_mem new, List.map_append]
  rfl

theorem nodup_insert {table : Table α} (distinct : table.names.Nodup) (name : String) (value : α) :
    (table.insert name value).names.Nodup := by
  by_cases known : name ∈ table.names
  · rwa [names_insert_of_mem known]
  · rw [names_insert_of_not_mem known, List.nodup_append]
    refine ⟨distinct, by simp, ?_⟩
    intro other old fresh member same
    rw [List.mem_singleton] at member
    exact known (member ▸ same ▸ old)

theorem nodup_foldl (given : List (String × α)) {table : Table α} (distinct : table.names.Nodup) :
    (given.foldl (fun table entry => table.insert entry.1 entry.2) table).names.Nodup := by
  induction given generalizing table with
  | nil => exact distinct
  | cons entry rest ih => exact ih (nodup_insert distinct entry.1 entry.2)

theorem nodup_ofList (given : List (String × α)) : (ofList given).names.Nodup :=
  nodup_foldl given List.nodup_nil

theorem foldl_entries (given : List (String × α)) (table : Table α)
    (distinct : (table.names ++ given.map (·.1)).Nodup) :
    given.foldl (fun table entry => table.insert entry.1 entry.2) table =
      ⟨table.entries ++ given⟩ := by
  induction given generalizing table with
  | nil => simp
  | cons entry rest ih =>
    have new : entry.1 ∉ table.names := by
      intro known
      exact List.disjoint_of_nodup_append distinct known (by simp)
    have next : (table.insert entry.1 entry.2).names ++ rest.map (·.1) =
        table.names ++ (entry :: rest).map (·.1) := by
      rw [names_insert_of_not_mem new]
      simp
    rw [List.foldl_cons, ih _ (next ▸ distinct), entries_insert_of_not_mem new]
    simp

/-- Entries with different names are all kept, in their order. -/
theorem ofList_entries {table : Table α} (distinct : table.names.Nodup) :
    ofList table.entries = table := by
  have kept := foldl_entries table.entries empty (by simpa [names, empty] using distinct)
  rwa [empty, List.nil_append] at kept

theorem mem_names_iff {table : Table α} {name : String} :
    name ∈ table.names ↔ ∃ value, table.find? name = some value := by
  constructor
  · intro member
    obtain ⟨entry, inside, rfl⟩ := List.mem_map.mp member
    cases found : table.find? entry.1 with
    | none =>
      have other := List.lookup_eq_none_iff.mp found entry inside
      simp at other
    | some value => exact ⟨value, rfl⟩
  · rintro ⟨value, found⟩
    exact List.mem_map.mpr ⟨(name, value), mem_of_find? found, rfl⟩

end Table

namespace Environment

/-! ## Entries -/

/-- An environment as states have them: its names can be set, and none comes twice. -/
structure WellFormed (env : Environment) : Prop where
  named : ∀ name ∈ env.names, isName name = true
  distinct : env.names.Nodup

theorem isName_iff (name : String) : isName name = true ↔ name ≠ "" ∧ '=' ∉ name.toList := by
  simp [isName]

theorem WellFormed.insert {env : Environment} (formed : env.WellFormed) {name : String}
    (named : isName name = true) (value : String) : WellFormed (env.insert name value) := by
  refine ⟨?_, Table.nodup_insert formed.distinct name value⟩
  by_cases known : name ∈ env.names
  · rw [Table.names_insert_of_mem known]
    exact formed.named
  · rw [Table.names_insert_of_not_mem known]
    intro other member
    rcases List.mem_append.mp member with old | new
    · exact formed.named other old
    · rwa [List.mem_singleton.mp new]

/-- A name that an entry gives can be set: it stands in front of the first equals sign. -/
theorem isName_of_parseEntry {entry name value : String}
    (read : parseEntry entry = .ok (name, value)) : isName name = true := by
  obtain ⟨split, filled⟩ := parseEntry_eq_ok read
  have front : name = String.ofList (entry.toList.takeWhile (· != '=')) := by
    unfold splitEntry at split
    simp only at split
    split at split
    · cases split
    · cases split
      rfl
  rw [isName_iff]
  refine ⟨by simpa using filled, fun member => ?_⟩
  rw [front, String.toList_ofList] at member
  have other := List.mem_takeWhile_imp member
  simp at other

/-- An entry is read as it was written. -/
theorem parseEntry_printEntry {name : String} (named : isName name = true) (value : String) :
    parseEntry (printEntry name value) = .ok (name, value) := by
  obtain ⟨filled, whole⟩ := (isName_iff name).mp named
  have front := Text.bne_of_not_mem whole
  have split : splitEntry (printEntry name value) = (name, some value) := by
    have shape : (printEntry name value).toList = name.toList ++ '=' :: value.toList := by
      simp [printEntry]
    simp only [splitEntry, shape]
    rw [List.takeWhile_append_of_pos front, List.dropWhile_append_of_pos front]
    simp
  rw [parseEntry, split]
  simp [filled]

theorem mapM_toEntries {env : Environment} (named : ∀ name ∈ env.names, isName name = true) :
    env.toEntries.mapM parseEntry = .ok env.entries := by
  obtain ⟨entries⟩ := env
  simp only [toEntries, Table.names] at named ⊢
  induction entries with
  | nil => rfl
  | cons entry rest ih =>
    obtain ⟨own, others⟩ := List.forall_mem_cons.mp named
    rw [List.map_cons, List.mapM_cons, parseEntry_printEntry own, ih others]
    rfl

theorem WellFormed.ofEntries {env : Environment} (formed : env.WellFormed) :
    Environment.ofEntries env.toEntries = .ok env := by
  rw [Environment.ofEntries, mapM_toEntries formed.named, Except.map,
    Table.ofList_entries formed.distinct]

theorem wellFormed_of_ofEntries {entries : List String} {env : Environment}
    (read : Environment.ofEntries entries = .ok env) : env.WellFormed := by
  refine ⟨fun name member => ?_, ?_⟩
  · obtain ⟨pair, inside, rfl⟩ := List.mem_map.mp member
    obtain ⟨entry, _, parsed⟩ := exists_of_ofEntries read pair inside
    exact isName_of_parseEntry parsed
  · cases found : entries.mapM parseEntry with
    | error fault => simp [Environment.ofEntries, found, Except.map] at read
    | ok given =>
      simp only [Environment.ofEntries, found, Except.map] at read
      cases read
      exact Table.nodup_ofList given

end Environment

/-! ## Environments of states -/

/-- The variable for the directory was set by hand, and no directory has been entered since. -/
def SetByHand (deeds : List Deed) : Prop :=
  ∃ before value since, deeds = before ++ .set "PWD" value :: since ∧ ∀ path, .enter path ∉ since

theorem SetByHand.append {deeds more : List Deed} (set : SetByHand deeds)
    (stays : ∀ path, Deed.enter path ∉ more) : SetByHand (deeds ++ more) := by
  obtain ⟨before, value, since, rfl, none⟩ := set
  refine ⟨before, value, since ++ more, by simp, fun path member => ?_⟩
  rcases List.mem_append.mp member with early | late
  · exact none path early
  · exact stays path late

theorem not_setByHand_enter (deeds : List Deed) (path : String) :
    ¬SetByHand (deeds ++ [.enter path]) := by
  rintro ⟨before, value, since, shape, none⟩
  rcases List.eq_nil_or_concat since with rfl | ⟨front, last, rfl⟩
  · have same := congrArg List.getLast? shape
    simp at same
  · have same : deeds ++ [.enter path] = (before ++ .set "PWD" value :: front) ++ [last] := by
      rw [shape]
      simp
    obtain ⟨_, ends⟩ := List.append_inj' same rfl
    cases ends
    exact none path (by simp)

/-- The environment has the directory that the script is in, or what was set by hand. -/
def Scene.TellsDirectory (scene : Scene) (deeds : List Deed) : Prop :=
  ∃ value, scene.env.find? "PWD" = some value ∧ (value = scene.pwd ∨ SetByHand deeds)

namespace Scene

theorem wellFormed_enter {scene : Scene} (formed : scene.env.WellFormed) (directory : String) :
    (scene.enter directory).env.WellFormed := formed.insert (by decide) directory

theorem Does.wellFormed {scene after : Scene} {deeds : List Deed} (does : scene.Does deeds after)
    (formed : scene.env.WellFormed) : after.env.WellFormed := by
  induction does with
  | aside _ env => rwa [env]
  | set accepted =>
    obtain ⟨named, rfl⟩ := setVariable_eq_ok accepted
    exact formed.insert named _
  | enter accepted =>
    obtain ⟨directory, _, _, rfl⟩ := changeDirectory_eq_ok accepted
    exact wellFormed_enter formed directory
  | trans _ _ first second => exact second (first formed)

/-- Entering a directory tells it to the environment, and only setting its variable unsays it. -/
theorem Does.tells {scene after : Scene} {deeds : List Deed} (does : scene.Does deeds after)
    {before : List Deed} (tells : scene.TellsDirectory before) :
    after.TellsDirectory (before ++ deeds) := by
  induction does generalizing before with
  | aside pwd env =>
    rw [List.append_nil]
    rwa [TellsDirectory, env, pwd]
  | @set scene after name value accepted =>
    obtain ⟨_, rfl⟩ := setVariable_eq_ok accepted
    by_cases own : name = "PWD"
    · subst own
      refine ⟨value, Table.find?_insert_self _ _ _, .inr ?_⟩
      exact ⟨before, value, [], rfl, by simp⟩
    · obtain ⟨told, found, told_or_set⟩ := tells
      refine ⟨told, (Table.find?_insert_ne _ (Ne.symm own) value).trans found, ?_⟩
      exact told_or_set.imp_right fun set => set.append (by simp)
  | enter accepted =>
    obtain ⟨directory, _, _, rfl⟩ := changeDirectory_eq_ok accepted
    exact ⟨directory, Table.find?_insert_self _ _ _, .inl rfl⟩
  | trans _ _ first second =>
    rw [← List.append_assoc]
    exact second (first tells)

/-- A variable is refused for its name, or it is the only one that changes: it keeps its place, or
comes last if it is new. -/
theorem setVariable_spec (scene : Scene) (name value : String) :
    (name = "" ∨ '=' ∈ name.toList) ∧
        scene.setVariable name value = .error (.failure (.invalidName name)) ∨
      ∃ env : Environment, scene.setVariable name value = .ok { scene with env := env } ∧
        (name ≠ "" ∧ '=' ∉ name.toList) ∧ env.find? name = some value ∧
        (∀ other, other ≠ name → env.find? other = scene.env.find? other) ∧
        (name ∈ scene.env.names → env.names = scene.env.names) ∧
        (name ∉ scene.env.names → env.names = scene.env.names ++ [name]) := by
  cases named : Environment.isName name with
  | true =>
    right
    exact ⟨_, setVariable_of_name named, (Environment.isName_iff name).mp named,
      Table.find?_insert_self _ _ _, fun other differs => Table.find?_insert_ne _ differs value,
      fun known => Table.names_insert_of_mem known value,
      fun new => Table.names_insert_of_not_mem new value⟩
  | false =>
    left
    refine ⟨?_, setVariable_of_not_name named⟩
    have unnamed : ¬(name ≠ "" ∧ '=' ∉ name.toList) := by
      rw [← Environment.isName_iff, named]
      simp
    by_contra neither
    exact unnamed (by simpa [not_or] using neither)

end Scene

/-- A state that was just made has a well-formed environment with its directory. -/
theorem State.environment_create {machine : Machine} {workdir : String} {entries : List String}
    {first : State} (created : State.create machine workdir entries = .ok first) :
    first.env.WellFormed ∧ first.toScene.TellsDirectory [] := by
  obtain ⟨_, pwd, env, _, _, _, read, rfl⟩ := State.create_eq_ok_iff.mp created
  have formed := Environment.wellFormed_of_ofEntries read
  exact ⟨formed.insert (by decide) pwd, pwd, Table.find?_insert_self _ _ _, .inl rfl⟩

/-- A state is made anew of its directory and its environment: only the variable for the directory
has another value then, and only if it was set by hand. -/
theorem State.create_again {machine : Machine} {scene : Scene}
    (normal : Path.IsNormal scene.pwd.toList) (formed : scene.env.WellFormed)
    (known : "PWD" ∈ scene.env.names) (present : machine.store.isDirectory scene.pwd = true) :
    ∃ fresh, State.create machine scene.pwd scene.env.toEntries = .ok fresh ∧
      fresh.pwd = scene.pwd ∧ fresh.env.names = scene.env.names ∧
      ∀ name, fresh.env.find? name =
        if name = "PWD" then some scene.pwd else scene.env.find? name := by
  have absolute : machine.absolute scene.pwd = .ok scene.pwd := by
    rw [Machine.absolute, if_pos normal.absolute, normal.normalize_eq]
  refine ⟨.start machine scene.pwd scene.env, State.create_eq_ok_iff.mpr
    ⟨scene.pwd, scene.pwd, scene.env, Machine.expandHome_plain normal.no_tilde, absolute, present,
      formed.ofEntries, rfl⟩, rfl, Table.names_insert_of_mem known _, fun name => ?_⟩
  by_cases own : name = "PWD"
  · rw [if_pos own, own]
    exact Table.find?_insert_self _ _ _
  · rw [if_neg own]
    exact Table.find?_insert_ne _ own _

/-- The environment of a script names each variable once, by a name that can be set, and tells the
directory that the script is in unless that was set by hand since a directory was entered. Setting a
variable changes no other, nothing changes where a variable or a directory is refused, and `env`
sets what its arguments set. A state that is made of the directory and the entries has the same
variables in the same order, with the same values but for that of the directory. -/
theorem State.environment_laws (machine : Machine) (workdir : String) (entries : List String)
    (first : State) (created : State.create machine workdir entries = .ok first)
    (deeds : List Deed) (state : State) (led : first.LeadsTo deeds state) :
    (∀ name ∈ state.env.names, name ≠ "" ∧ '=' ∉ name.toList) ∧
    state.env.names.Nodup ∧
    state.env.toEntries.mapM Environment.parseEntry = .ok state.env.entries ∧
    state.toScene.TellsDirectory deeds ∧
    (∀ name value, (name = "" ∨ '=' ∈ name.toList) ∧
        state.setVariable name value = .error (.failure (.invalidName name)) ∨
      ∃ env : Environment, state.setVariable name value = .ok { state.toScene with env := env } ∧
        (name ≠ "" ∧ '=' ∉ name.toList) ∧ env.find? name = some value ∧
        (∀ other, other ≠ name → env.find? other = state.env.find? other) ∧
        (name ∈ state.env.names → env.names = state.env.names) ∧
        (name ∉ state.env.names → env.names = state.env.names ++ [name])) ∧
    (∀ args, (Builtin.cd args state.toScene).2 ≠ .ok .done →
      (Builtin.cd args state.toScene).1 = state.toScene) ∧
    (∀ args, (Builtin.env args state.toScene).1 =
      state.toScene.setAll (Builtin.settings args)) ∧
    ∀ other : Machine, other.store.isDirectory state.pwd = true →
      ∃ fresh, State.create other state.pwd state.env.toEntries = .ok fresh ∧
        fresh.pwd = state.pwd ∧ fresh.env.names = state.env.names ∧
        ∀ name, fresh.env.find? name =
          if name = "PWD" then some state.pwd else state.env.find? name := by
  obtain ⟨startFormed, startTells⟩ := State.environment_create created
  obtain ⟨does, _⟩ := led.does (State.background_create created)
  have formed := does.wellFormed startFormed
  have tells : state.toScene.TellsDirectory deeds := does.tells startTells
  have normal := does.isNormal (State.isNormal_create created)
  have known : "PWD" ∈ state.env.names := by
    obtain ⟨value, found, _⟩ := tells
    exact Table.mem_names_iff.mpr ⟨value, found⟩
  exact ⟨fun name member => (Environment.isName_iff name).mp (formed.named name member),
    formed.distinct, Environment.mapM_toEntries formed.named, tells,
    state.toScene.setVariable_spec, fun args => Builtin.fst_cd,
    fun args => Builtin.fst_env args state.toScene,
    fun other present => State.create_again normal formed known present⟩

private theorem deeds_of_cd {engine : Engine} {usage : CommandUsage}
    (known : engine.commands.find? "cd" = some (Builtin.changing usage Builtin.cd)) {state : State}
    (alive : state.isCanceled = false) {scene : Scene}
    (entered : (engine.attach state).changeDirectory "." = .ok scene) :
    (engine.execute "s" (.ofLines ["cd .\n"]) state).trace.deeds = [.enter "."] := by
  have words : Script.rawWords "cd ." = .ok [[.plain "cd".toList], [.plain ".".toList]] := rfl
  have read : Script.Line.parse "cd ." state.env.expand =
      .ok (some ⟨"cd .", "cd", ["."], [], .success, false⟩) :=
    @Script.Line.parse_plain _ _ _ "d ".toList rfl rfl rfl (by decide) _ words (by simp) _ rfl
      state.env
  have replied : (Builtin.changing usage Builtin.cd).run ["."] (engine.attach state) =
      ({ engine.attach state with toScene := scene }, .done) := by
    simp [Command.run, Builtin.changing, Builtin.cd, entered, Builtin.replyOf]
  have called : engine.runLine ⟨"cd .", "cd", ["."], [], .success, false⟩ (engine.attach state) =
      _ := Engine.runLine_called rfl known (by simp) replied
  have stepped : engine.step "cd .\n" (engine.attach state) = _ := Engine.step_parsed alive read
  rw [Engine.deeds_execute]
  simp only [Engine.advance, Source.ofLines, Engine.runLines, stepped, called]
  rfl

/-- The later of two entries for a name stands in the place of the first. The directory's variable
is set by hand; a script that enters the directory sets it right, and so does a state that is made
of the entries. -/
theorem State.environment_laws_by_hand :
    let machine : Machine := .empty
    let first := State.start machine "/" ⟨[("A", "x=y\n"), ("B", "")]⟩
    let scene := { first.toScene with env := first.env.insert "PWD" "z" }
    let run := (Engine.standard.extend .short).execute "s" (.ofLines ["cd .\n"])
      { first with toScene := scene }
    State.create machine "/" ["A=1", "B=", "A=x=y\n"] = .ok first ∧
      first.setVariable "PWD" "z" = .ok scene ∧
      run.trace.deeds = [.enter "."] ∧ run.state.env.find? "PWD" = some run.state.pwd ∧
      ∃ fresh, State.create machine "/" ["A=x=y\n", "B=", "PWD=z"] = .ok fresh ∧
        fresh.env.names = ["A", "B", "PWD"] ∧ fresh.env.find? "A" = some "x=y\n" ∧
        fresh.env.find? "PWD" = some "/" := by
  intro machine first scene run
  have created : State.create machine "/" ["A=1", "B=", "A=x=y\n"] = .ok first :=
    State.create_root machine rfl
  have set : first.setVariable "PWD" "z" = .ok scene := rfl
  have present : machine.store.isDirectory "/" = true := machine.store.isDirectory_root
  have led : first.LeadsTo [.set "PWD" "z"] { first with toScene := scene } := .set .start set
  obtain ⟨_, _, _, _, _, _, _, again⟩ :=
    State.environment_laws machine "/" _ first created _ _ led
  obtain ⟨fresh, made, _, names, values⟩ := again machine present
  have stays : scene.resolve "." = .ok "/" := @Scene.resolve_untilded scene "/" "." rfl rfl
  have entered : scene.changeDirectory "." = .ok (scene.enter "/") := by
    simp only [Scene.changeDirectory, stays, bind, Except.bind, Files.Store.isDirectory_root]
    rfl
  have deeds : run.trace.deeds = [.enter "."] := deeds_of_cd rfl rfl entered
  obtain ⟨_, _, _, ⟨value, found, told⟩, _⟩ := State.environment_laws machine "/" _ first created
    ([.set "PWD" "z"] ++ run.trace.deeds) run.state
    (.execute led (Engine.grounded_extend .short) "s" (.ofLines ["cd .\n"]))
  refine ⟨created, set, deeds, ?_, fresh, made, names, (values "A").trans (by decide),
    values "PWD"⟩
  rcases told with own | ⟨before, text, since, shape, none⟩
  · rw [← own]
    exact found
  · exact absurd ⟨before, text, since, deeds ▸ shape, none⟩ (not_setByHand_enter [_] ".")

end LineScript
