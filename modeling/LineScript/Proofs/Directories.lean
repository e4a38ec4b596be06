import LineScript.Proofs.Clean
import LineScript.Proofs.Dialogues
import LineScript.Proofs.Paths
import LineScript.Proofs.Whereabouts

/-!
# Working directories
A path that is given after a directory was entered leads where the two paths joined have led before,
unless it begins with a tilde, which stands for a home only at the front. The working directory of a
script is normal all along: it is where the script began or what such a path has led to
(`directory_laws`).
-/
namespace LineScript

/-! ## Homes -/

namespace Path

/-- The path begins with a tilde and with the name of a user that holds a NUL. -/
def NamesNul (path : String) : Prop :=
  ∃ name rest, tildeName path.toList = some (name, rest) ∧ '\x00' ∈ name

theorem tildeName_eq_none {path : List Char} : tildeName path = none ↔ path.head? ≠ some '~' := by
  unfold tildeName
  split
  · simp
  · rename_i other
    cases path with
    | nil => simp
    | cons c rest => simpa using fun same : c = '~' => other rest (by rw [same])

theorem tildeName_eq_some {path name rest : List Char}
    (tilde : tildeName path = some (name, rest)) :
    path = '~' :: (name ++ rest) ∧ '/' ∉ name ∧ (rest = [] ∨ ∃ more, rest = '/' :: more) := by
  unfold tildeName at tilde
  split at tilde
  · rename_i after
    rw [List.span_eq_takeWhile_dropWhile] at tilde
    cases tilde
    refine ⟨by rw [List.takeWhile_append_dropWhile], ?_, ?_⟩
    · intro member
      simpa using List.mem_takeWhile_imp member
    · cases behind : after.dropWhile (· != '/') with
      | nil => exact .inl rfl
      | cons c more =>
        right
        have slash : c = '/' := by
          have first := List.head?_dropWhile_not (· != '/') after
          simpa [behind] using first
        exact ⟨more, by rw [slash]⟩
  · cases tilde

theorem tildeName_of_parts {name rest : List Char} (whole : '/' ∉ name)
    (behind : rest = [] ∨ ∃ more, rest = '/' :: more) :
    tildeName ('~' :: (name ++ rest)) = some (name, rest) := by
  have all : ∀ c ∈ name, (c != '/') = true := by
    intro c member
    simpa using ne_of_mem_of_not_mem member whole
  rw [tildeName, List.span_eq_takeWhile_dropWhile, List.takeWhile_append_of_pos all,
    List.dropWhile_append_of_pos all]
  rcases behind with rfl | ⟨more, rfl⟩ <;> simp

section
variable {homeOf : List Char → Option (List Char)} {path name rest home : List Char}

theorem expandHome_of_no_tilde (plain : tildeName path = none) : expandHome homeOf path = path := by
  rw [expandHome, plain]

theorem expandHome_of_unknown (tilde : tildeName path = some (name, rest))
    (unknown : homeOf name = none) : expandHome homeOf path = path := by
  rw [expandHome, tilde]
  simp only [unknown]

theorem expandHome_of_home (tilde : tildeName path = some (name, rest))
    (known : homeOf name = some home) (filled : Text.dropEndWhile (· == '/') home ++ rest ≠ []) :
    expandHome homeOf path = Text.dropEndWhile (· == '/') home ++ rest := by
  rw [expandHome, tilde]
  simp only [known]
  split
  · rename_i empty
    exact absurd empty filled
  · rfl

theorem expandHome_of_root (tilde : tildeName path = some (name, []))
    (known : homeOf name = some home) (empty : Text.dropEndWhile (· == '/') home = []) :
    expandHome homeOf path = ['/'] := by
  rw [Text.dropEndWhile] at empty
  rw [expandHome, tilde]
  simp only [known, empty, List.append_nil]

end

theorem getLast?_dropEndWhile_ne (home : List Char) :
    (Text.dropEndWhile (· == '/') home).getLast? ≠ some '/' := by
  intro ends
  have first := List.head?_dropWhile_not (· == '/') home.reverse
  rw [Text.dropEndWhile, List.getLast?_reverse] at ends
  simp [ends] at first

theorem tildeName_withSlash_append {base path : List Char} (first : base.head? ≠ some '~')
    (plain : path.head? ≠ some '~') : tildeName (withSlash base ++ path) = none := by
  rw [tildeName_eq_none]
  rcases withSlash_cases base with ⟨same, rfl | ⟨front, rfl⟩⟩ | ⟨added, filled, _⟩
  · simpa [same] using plain
  · cases front <;> simp_all
  · obtain ⟨c, more, rfl⟩ := List.exists_cons_of_ne_nil filled
    simpa [added] using first

/-- Joining keeps the name behind a tilde. Where it adds a slash behind what follows the name, it
does so behind any front. -/
theorem tildeName_withSlash {base name rest : List Char}
    (tilde : tildeName base = some (name, rest)) (path : List Char) : ∃ tail,
      tildeName (withSlash base ++ path) = some (name, '/' :: tail) ∧
      (∀ front : List Char, front.getLast? ≠ some '/' → front ++ rest ≠ [] →
        withSlash (front ++ rest) ++ path = front ++ '/' :: tail) ∧
      (rest = [] → tail = path) := by
  obtain ⟨rfl, whole, behind⟩ := tildeName_eq_some tilde
  have named (tail : List Char) : tildeName ('~' :: (name ++ '/' :: tail)) =
      some (name, '/' :: tail) := tildeName_of_parts whole (.inr ⟨tail, rfl⟩)
  rcases behind with rfl | ⟨more, rfl⟩
  · have last : ('~' :: name).getLast? ≠ some '/' := by
      intro ends
      have member := List.mem_of_getLast? ends
      simp [whole] at member
    refine ⟨path, ?_, fun front ends filled => ?_, fun _ => rfl⟩
    · rw [← named, List.append_nil, withSlash_of_last (by simp) last]
      simp
    · rw [List.append_nil] at filled ⊢
      rw [withSlash_of_last filled ends]
      simp
  · obtain ⟨after, slash⟩ : ∃ after, withSlash ('/' :: more) = '/' :: after := by
      rcases withSlash_cases ('/' :: more) with ⟨same, _⟩ | ⟨added, _⟩
      · exact ⟨more, same⟩
      · exact ⟨more ++ ['/'], added⟩
    refine ⟨after ++ path, ?_, fun front _ _ => ?_, by simp⟩
    · rw [← named, ← List.cons_append, withSlash_append (by simp), slash]
      simp
    · rw [withSlash_append (by simp), slash]
      simp

/-- A home is put in front of a path, whatever is joined to the path. -/
theorem expandHome_joinChars (homeOf : List Char → Option (List Char)) (base : List Char)
    {path : List Char} (relative : isAbsolute path = false) (plain : path.head? ≠ some '~') :
    expandHome homeOf (joinChars base path) = joinChars (expandHome homeOf base) path := by
  rw [joinChars_relative relative, joinChars_relative relative]
  cases tilde : tildeName base with
  | none =>
    have joined := tildeName_withSlash_append (tildeName_eq_none.mp tilde) plain
    rw [expandHome_of_no_tilde joined, expandHome_of_no_tilde tilde]
  | some parts =>
    obtain ⟨name, rest⟩ := parts
    obtain ⟨tail, again, other, alone⟩ := tildeName_withSlash tilde path
    cases known : homeOf name with
    | none => rw [expandHome_of_unknown again known, expandHome_of_unknown tilde known]
    | some home =>
      rw [expandHome_of_home again known (by simp)]
      by_cases empty : Text.dropEndWhile (· == '/') home ++ rest = []
      · obtain ⟨trimmed, rfl⟩ := List.append_eq_nil_iff.mp empty
        rw [expandHome_of_root tilde known trimmed, trimmed, alone rfl]
        rfl
      · rw [expandHome_of_home tilde known empty, other _ (getLast?_dropEndWhile_ne home) empty]

theorem join_absolute {path : String} (absolute : isAbsolute path.toList = true) (base : String) :
    join base path = path := by
  rw [join, joinChars_absolute absolute, String.ofList_toList]

theorem isNormal_join {base : String} (absolute : isAbsolute base.toList = true) (path : String) :
    IsNormal (normalize (join base path)).toList := by
  have filled : base.toList ≠ [] := by
    intro empty
    simp [empty, isAbsolute] at absolute
  rw [normalize, join, String.toList_ofList, String.toList_ofList]
  apply isNormal_normalizeChars
  rw [isAbsolute_joinChars filled, absolute, Bool.or_true]

theorem IsNormal.normalize_eq {path : String} (normal : IsNormal path.toList) :
    Path.normalize path = path := by
  rw [Path.normalize, normal.normalize, String.ofList_toList]

theorem IsNormal.no_tilde {path : List Char} (normal : IsNormal path) : path.head? ≠ some '~' := by
  have absolute := normal.absolute
  intro tilde
  simp [isAbsolute, tilde] at absolute

theorem normalize_join (base path rest : String) :
    normalize (join (normalize (join base path)) rest) =
      normalize (join base (join path rest)) := by
  simp only [normalize, join, String.toList_ofList]
  rw [normalizeChars_joinChars, joinChars_assoc]

end Path

section
variable {machine : Machine} {path : String}

theorem Machine.expandHome_plain (plain : path.toList.head? ≠ some '~') :
    machine.expandHome path = .ok path := by
  rw [expandHome, Path.tildeName_eq_none.mpr plain]

theorem Machine.expandHome_namesNul (nul : Path.NamesNul path) :
    machine.expandHome path = .error (.value .embeddedNul) := by
  obtain ⟨name, rest, tilde, member⟩ := nul
  simp [expandHome, tilde, member]

theorem Machine.expandHome_of_not_namesNul (none : ¬Path.NamesNul path) :
    machine.expandHome path =
      .ok (String.ofList (Path.expandHome machine.homeOf path.toList)) := by
  rw [expandHome]
  cases tilde : Path.tildeName path.toList with
  | none => rw [Path.expandHome_of_no_tilde tilde, String.ofList_toList]
  | some parts =>
    have visible : '\x00' ∉ parts.1 := fun member => none ⟨parts.1, parts.2, tilde, member⟩
    simp [visible]

theorem Machine.not_namesNul {expanded : String} (known : machine.expandHome path = .ok expanded) :
    ¬Path.NamesNul path := by
  intro nul
  rw [expandHome_namesNul nul] at known
  cases known

theorem Machine.expandHome_join_relative {base expanded : String}
    (known : machine.expandHome base = .ok expanded)
    (relative : Path.isAbsolute path.toList = false) (plain : path.toList.head? ≠ some '~') :
    machine.expandHome (Path.join base path) = .ok (Path.join expanded path) := by
  have visible := not_namesNul known
  have joined : (Path.join base path).toList = Path.withSlash base.toList ++ path.toList := by
    rw [Path.join, String.toList_ofList, Path.joinChars_relative relative]
  have still : ¬Path.NamesNul (Path.join base path) := by
    rintro ⟨name, rest, tilde, member⟩
    rw [joined] at tilde
    cases own : Path.tildeName base.toList with
    | none =>
      rw [Path.tildeName_withSlash_append (Path.tildeName_eq_none.mp own) plain] at tilde
      cases tilde
    | some parts =>
      obtain ⟨tail, again, _⟩ := Path.tildeName_withSlash own path.toList
      rw [tilde] at again
      cases again
      exact visible ⟨parts.1, parts.2, own, member⟩
  rw [expandHome_of_not_namesNul visible] at known
  cases known
  rw [expandHome_of_not_namesNul still, Path.join, Path.join, String.toList_ofList,
    String.toList_ofList, Path.expandHome_joinChars machine.homeOf base.toList relative plain]

/-- What is joined behind a path is joined behind what its tilde stands for. -/
theorem Machine.expandHome_join {base expanded : String}
    (known : machine.expandHome base = .ok expanded) (plain : path.toList.head? ≠ some '~') :
    machine.expandHome (Path.join base path) = .ok (Path.join expanded path) := by
  cases absolute : Path.isAbsolute path.toList with
  | true =>
    rw [Path.join_absolute absolute, Path.join_absolute absolute]
    exact expandHome_plain plain
  | false => exact expandHome_join_relative known absolute plain

end

/-! ## Entering directories -/

namespace Scene

theorem resolve_of_expanded {scene : Scene} {path expanded : String}
    (known : scene.machine.expandHome path = .ok expanded) :
    scene.resolve path = .ok (Path.normalize (Path.join scene.pwd expanded)) := by
  simp [resolve, known, bind, Except.bind, pure, Except.pure]

theorem resolve_eq_ok {scene : Scene} {path target : String}
    (resolved : scene.resolve path = .ok target) : ∃ expanded,
      scene.machine.expandHome path = .ok expanded ∧
        target = Path.normalize (Path.join scene.pwd expanded) := by
  cases known : scene.machine.expandHome path with
  | error fault => simp [resolve, known, bind, Except.bind] at resolved
  | ok expanded =>
    rw [resolve_of_expanded known] at resolved
    exact ⟨expanded, rfl, (Except.ok.inj resolved).symm⟩

theorem changeDirectory_eq_ok {scene after : Scene} {path : String}
    (entered : scene.changeDirectory path = .ok after) : ∃ directory,
      scene.resolve path = .ok directory ∧ scene.machine.store.isDirectory directory = true ∧
        after = scene.enter directory := by
  unfold changeDirectory at entered
  cases resolved : scene.resolve path with
  | error fault => simp [resolved, bind, Except.bind] at entered
  | ok directory =>
    simp only [resolved, bind, Except.bind] at entered
    split at entered
    · rename_i present
      cases entered
      exact ⟨directory, rfl, present, rfl⟩
    · cases entered

/-- After a directory was entered, a path leads where it has led behind the directory's path. -/
theorem resolve_after {scene after : Scene} {base path : String}
    (entered : scene.changeDirectory base = .ok after) (plain : path.toList.head? ≠ some '~') :
    ∃ target, after.resolve path = .ok target ∧
      scene.resolve (Path.join base path) = .ok target := by
  obtain ⟨directory, resolved, _, rfl⟩ := changeDirectory_eq_ok entered
  obtain ⟨expanded, known, rfl⟩ := resolve_eq_ok resolved
  have own : (scene.enter (Path.normalize (Path.join scene.pwd expanded))).machine.expandHome path =
      .ok path := Machine.expandHome_plain plain
  refine ⟨_, resolve_of_expanded own, ?_⟩
  rw [resolve_of_expanded (Machine.expandHome_join known plain), ← Path.normalize_join]
  rfl

theorem isNormal_of_resolve {scene : Scene} (normal : Path.IsNormal scene.pwd.toList)
    {path target : String} (resolved : scene.resolve path = .ok target) :
    Path.IsNormal target.toList := by
  obtain ⟨expanded, _, rfl⟩ := resolve_eq_ok resolved
  exact Path.isNormal_join normal.absolute expanded

theorem resolve_of_isNormal (scene : Scene) {path : String} (normal : Path.IsNormal path.toList) :
    scene.resolve path = .ok path := by
  rw [resolve_of_expanded (Machine.expandHome_plain normal.no_tilde),
    Path.join_absolute normal.absolute, normal.normalize_eq]

/-- A path leads somewhere unless it names a user with a NUL. -/
theorem resolve_visible (scene : Scene) {path : String} (visible : ¬Path.NamesNul path) :
    ∃ target, scene.resolve path = .ok target :=
  ⟨_, resolve_of_expanded (Machine.expandHome_of_not_namesNul visible)⟩

theorem resolve_namesNul {scene : Scene} {path : String} (nul : Path.NamesNul path) :
    scene.resolve path = .error (.value .embeddedNul) := by
  rw [resolve, Machine.expandHome_namesNul nul]
  rfl

end Scene

/-! ## Where scripts are -/

theorem Machine.isNormal_absolute {machine : Machine} {path pwd : String}
    (absolute : machine.absolute path = .ok pwd) : Path.IsNormal pwd.toList := by
  unfold Machine.absolute at absolute
  by_cases own : Path.isAbsolute path.toList = true
  · rw [if_pos own] at absolute
    cases absolute
    rw [Path.normalize, String.toList_ofList]
    exact Path.isNormal_normalizeChars own
  rw [if_neg own] at absolute
  cases known : machine.workdir? with
  | none => simp [known] at absolute
  | some workdir =>
    simp only [known, Except.ok.injEq] at absolute
    rw [← absolute]
    refine Path.isNormal_join ?_ path
    obtain ⟨location, _, rfl⟩ := Option.map_eq_some_iff.mp known
    simp [Path.isAbsolute]

/-- A state is made where its directory leads, if that is there and the entries can be read. -/
theorem State.create_eq_ok_iff {machine : Machine} {workdir : String} {entries : List String}
    {first : State} : State.create machine workdir entries = .ok first ↔
      ∃ expanded pwd env, machine.expandHome workdir = .ok expanded ∧
        machine.absolute expanded = .ok pwd ∧ machine.store.isDirectory pwd = true ∧
        Environment.ofEntries entries = .ok env ∧ first = .start machine pwd env := by
  constructor
  · intro created
    unfold State.create at created
    cases known : machine.expandHome workdir with
    | error fault => simp [known, bind, Except.bind] at created
    | ok expanded =>
      simp only [known, bind, Except.bind] at created
      split at created
      · cases created
      · rename_i pwd absolute
        split at created
        · rename_i directory
          split at created
          · rename_i env read
            cases created
            exact ⟨expanded, pwd, env, rfl, absolute, directory, read, rfl⟩
          · cases created
        · cases created
  · rintro ⟨expanded, pwd, env, known, absolute, directory, read, rfl⟩
    simp [State.create, known, absolute, directory, read, bind, Except.bind, pure, Except.pure]

theorem State.background_create {machine : Machine} {workdir : String} {entries : List String}
    {first : State} (created : State.create machine workdir entries = .ok first) :
    first.background = [] := by
  obtain ⟨_, _, _, _, _, _, _, rfl⟩ := State.create_eq_ok_iff.mp created
  rfl

theorem State.isNormal_create {machine : Machine} {workdir : String} {entries : List String}
    {first : State} (created : State.create machine workdir entries = .ok first) :
    Path.IsNormal first.pwd.toList := by
  obtain ⟨_, pwd, env, _, absolute, _, _, rfl⟩ := State.create_eq_ok_iff.mp created
  exact Machine.isNormal_absolute absolute

/-- A script that was in a normal directory is in one again, whatever it has done. -/
theorem Scene.Does.isNormal {scene after : Scene} {deeds : List Deed}
    (does : scene.Does deeds after) (normal : Path.IsNormal scene.pwd.toList) :
    Path.IsNormal after.pwd.toList := by
  induction does with
  | aside pwd _ => rwa [pwd]
  | set accepted =>
    obtain ⟨_, rfl⟩ := Scene.setVariable_eq_ok accepted
    exact normal
  | enter accepted =>
    obtain ⟨directory, resolved, _, rfl⟩ := Scene.changeDirectory_eq_ok accepted
    exact Scene.isNormal_of_resolve normal resolved
  | trans _ _ first second => exact second (first normal)

/-- Once a directory was entered, a path leads where the two joined have led before, unless it
begins with a tilde; where none is entered, nothing changes. The directory of a script is normal all
along, and so is what paths lead to, which leads to itself. Only a path that names a user with a NUL
leads nowhere. -/
theorem State.directory_laws (machine : Machine) (workdir : String) (entries : List String)
    (first : State) (created : State.create machine workdir entries = .ok first)
    (deeds : List Deed) (state : State) (led : first.LeadsTo deeds state) :
    (∀ base path scene, state.changeDirectory base = .ok scene → path.toList.head? ≠ some '~' →
      ∃ target, scene.resolve path = .ok target ∧
        state.resolve (Path.join base path) = .ok target) ∧
    (∀ args, (Builtin.cd args state.toScene).2 ≠ .ok .done →
      (Builtin.cd args state.toScene).1 = state.toScene) ∧
    Path.IsNormal state.pwd.toList ∧
    ∀ path, (Path.NamesNul path → state.resolve path = .error (.value .embeddedNul)) ∧
      (¬Path.NamesNul path → ∃ target, state.resolve path = .ok target ∧
        Path.IsNormal target.toList ∧ state.resolve target = .ok target) := by
  obtain ⟨does, _⟩ := led.does (State.background_create created)
  have normal := does.isNormal (State.isNormal_create created)
  refine ⟨fun base path scene entered plain => Scene.resolve_after entered plain,
    fun args => Builtin.fst_cd, normal, fun path => ⟨Scene.resolve_namesNul, fun visible => ?_⟩⟩
  obtain ⟨target, resolved⟩ := state.toScene.resolve_visible visible
  have whole := Scene.isNormal_of_resolve normal resolved
  exact ⟨target, resolved, whole, Scene.resolve_of_isNormal state.toScene whole⟩

/-- From `/a` the script goes up, and then `b//c` leads where `../b//c` has led before. -/
theorem State.directory_laws_up :
    let machine := { Machine.empty with store := ⟨⟨[(["a"], .directory)]⟩, none⟩ }
    let first := State.start machine "/a" .empty
    let scene := first.toScene.enter "/"
    State.create machine "/../a/" [] = .ok first ∧ first.changeDirectory ".." = .ok scene ∧
      first.resolve "../b//c" = .ok "/b/c" ∧ scene.resolve "b//c" = .ok "/b/c" ∧
      scene.resolve "~\x00/b" = .error (.value .embeddedNul) := by
  intro machine first scene
  have there : machine.store.resolve true "/a" = .ok ⟨["a"], some .directory⟩ :=
    @Files.Store.resolve_single machine.store true "/a" "a" [] _ (by decide) rfl rfl (by decide)
      rfl (by simp)
  have created : State.create machine "/../a/" [] = .ok first :=
    State.create_of_directory rfl rfl (Files.Store.isDirectory_of_resolve (by decide) there rfl) rfl
  have above : first.resolve ".." = .ok "/" :=
    @Scene.resolve_untilded first.toScene "/a" ".." rfl rfl
  have entered : first.changeDirectory ".." = .ok scene := by
    simp only [Scene.changeDirectory, above, bind, Except.bind, Files.Store.isDirectory_root]
    rfl
  have joined : first.resolve (Path.join ".." "b//c") = .ok "/b/c" :=
    @Scene.resolve_untilded first.toScene "/a" (Path.join ".." "b//c") rfl rfl
  obtain ⟨composes, _⟩ := State.directory_laws machine "/../a/" [] first created [] first .start
  obtain ⟨target, behind, before⟩ := composes ".." "b//c" scene entered (by decide)
  obtain ⟨_, _, _, leads⟩ := State.directory_laws machine "/../a/" [] first created [.enter ".."]
    { first with toScene := scene } (.enter .start entered)
  have nul : Path.NamesNul "~\x00/b" := ⟨['\x00'], ['/', 'b'], by decide, by decide⟩
  have same : target = "/b/c" := Except.ok.inj (before.symm.trans joined)
  exact ⟨created, entered, joined, same ▸ behind, (leads "~\x00/b").1 nul⟩

/-- A user with a NUL is nowhere, not even in a state that was just made. -/
theorem State.not_resolve_all :
    let machine : Machine := .empty
    let first := State.start machine "/" .empty
    State.create machine "/" [] = .ok first ∧ first.LeadsTo [] first ∧
      ¬∀ path, ∃ target, first.resolve path = .ok target := by
  intro machine first
  refine ⟨State.create_root machine rfl, .start, fun all => ?_⟩
  obtain ⟨target, resolved⟩ := all "~\x00"
  have nul : Path.NamesNul "~\x00" := ⟨['\x00'], [], by decide, by decide⟩
  have refused : first.resolve "~\x00" = .error (.value .embeddedNul) :=
    Scene.resolve_namesNul nul
  cases refused.symm.trans resolved

end LineScript
