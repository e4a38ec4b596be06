import Mathlib.Data.List.Basic
import LineScript.Path
import LineScript.Proofs.Arguments

/-!
# Normal paths
A path is normalised by a walk over its pieces that keeps a stack of names: `..` takes the last name
off again, unless there is none. What such a stack looks like (`Kept`) is just what a second walk
leaves as it is, so that normalising the front of a path first makes no difference
(`normalizeChars_joinChars`). From the root there is no `..` left in the end, and a path without
anything to normalise has a shape of its own (`IsNormal`).
-/
namespace LineScript.Path

/-! ## Pieces -/

theorem pieces_ne_nil (path : List Char) : pieces path ≠ [] := by
  cases path with
  | nil => simp [pieces, splitAt]
  | cons c rest =>
    rw [pieces, splitAt]
    split
    · simp
    · split <;> simp

theorem pieces_append (front rest : List Char) :
    pieces (front ++ '/' :: rest) = pieces front ++ pieces rest := by
  induction front with
  | nil => rfl
  | cons c front ih =>
    simp only [pieces] at ih ⊢
    simp only [List.cons_append, splitAt, ih]
    by_cases slash : (c == '/') = true
    · rw [if_pos slash, if_pos slash]
      rfl
    · rw [if_neg slash, if_neg slash]
      cases cut : splitAt (· == '/') front with
      | nil => exact absurd cut (pieces_ne_nil front)
      | cons piece more => rfl

theorem pieces_of_whole {piece : List Char} (whole : '/' ∉ piece) : pieces piece = [piece] := by
  apply splitAt_of_none
  intro c member
  simpa using ne_of_mem_of_not_mem member whole

theorem slash_not_mem_pieces {path piece : List Char} (member : piece ∈ pieces path) :
    '/' ∉ piece := by
  induction path generalizing piece with
  | nil =>
    obtain rfl : piece = [] := by simpa [pieces, splitAt] using member
    simp
  | cons c rest ih =>
    rw [pieces, splitAt] at member
    by_cases slash : (c == '/') = true
    · rw [if_pos slash] at member
      rcases List.mem_cons.mp member with rfl | later
      · simp
      · exact ih later
    · rw [if_neg slash] at member
      have other : '/' ≠ c := by
        rintro rfl
        exact slash rfl
      cases cut : splitAt (· == '/') rest with
      | nil => exact absurd cut (pieces_ne_nil rest)
      | cons first more =>
        simp only [cut] at member
        rw [pieces, cut] at ih
        rcases List.mem_cons.mp member with rfl | later
        · rw [List.mem_cons, not_or]
          exact ⟨other, ih List.mem_cons_self⟩
        · exact ih (List.mem_cons_of_mem _ later)

/-! ## Stacks of names -/

/-- A piece of a path that is kept where nothing stands before it. -/
structure IsName (name : List Char) : Prop where
  filled : name ≠ []
  moves : name ≠ ['.']
  whole : '/' ∉ name

/-- Names that are kept, the last one first. From the root there is no `..` among them, and
elsewhere nothing stands before one but more of them. -/
def Kept (rooted : Bool) : List (List Char) → Prop
  | [] => True
  | name :: rest => IsName name ∧
    (name = ['.', '.'] → rooted = false ∧ ∀ other ∈ rest, other = ['.', '.']) ∧ Kept rooted rest

section
variable {rooted : Bool} {names : List (List Char)}

theorem Kept.isName (kept : Kept rooted names) : ∀ name ∈ names, IsName name := by
  induction names with
  | nil => simp
  | cons name rest ih => exact List.forall_mem_cons.mpr ⟨kept.1, ih kept.2.2⟩

theorem Kept.ne_up (kept : Kept true names) : ∀ name ∈ names, name ≠ ['.', '.'] := by
  induction names with
  | nil => simp
  | cons name rest ih =>
    refine List.forall_mem_cons.mpr ⟨?_, ih kept.2.2⟩
    intro up
    cases (kept.2.1 up).1

/-- A name is kept on the stack that it was kept on before. -/
theorem Kept.keep_self {name : List Char} (kept : Kept rooted (name :: names)) :
    keep rooted names name = name :: names := by
  obtain ⟨named, ups, _⟩ := kept
  unfold Path.keep
  rw [if_neg (by simp [named.filled, named.moves])]
  by_cases up : name = ['.', '.']
  · obtain ⟨rfl, others⟩ := ups up
    subst up
    cases names with
    | nil => rfl
    | cons last rest => simp [others last]
  · rw [if_neg up]

/-- Every piece leaves such a stack. -/
theorem Kept.keep (kept : Kept rooted names) {piece : List Char} (whole : '/' ∉ piece) :
    Kept rooted (keep rooted names piece) := by
  unfold Path.keep
  by_cases still : piece = [] ∨ piece = ['.']
  · rwa [if_pos still]
  rw [if_neg still]
  have named : IsName piece := by
    rw [not_or] at still
    exact ⟨still.1, still.2, whole⟩
  by_cases up : piece = ['.', '.']
  · rw [if_pos up]
    subst up
    cases names with
    | nil =>
      cases rooted with
      | true => trivial
      | false => exact ⟨named, by simp, trivial⟩
    | cons last rest =>
      by_cases above : last = ['.', '.']
      · obtain ⟨free, others⟩ := kept.2.1 above
        simp only [above, if_true]
        subst above
        exact ⟨named, fun _ => ⟨free, List.forall_mem_cons.mpr ⟨rfl, others⟩⟩, kept⟩
      · simp only [above, if_false]
        exact kept.2.2
  · rw [if_neg up]
    exact ⟨named, fun same => absurd same up, kept⟩

end

/-- The stack of names that a path leads to from the names before it. -/
def climb (rooted : Bool) (names : List (List Char)) (path : List Char) : List (List Char) :=
  (pieces path).foldl (keep rooted) names

theorem normalNames_eq (path : List Char) :
    normalNames path = (climb (isAbsolute path) [] path).reverse := rfl

section
variable (rooted : Bool) (names : List (List Char))

theorem climb_nil : climb rooted names [] = names := rfl

theorem climb_append (front rest : List Char) :
    climb rooted names (front ++ '/' :: rest) = climb rooted (climb rooted names front) rest := by
  rw [climb, pieces_append, List.foldl_append]
  rfl

theorem climb_slash (rest : List Char) :
    climb rooted names ('/' :: rest) = climb rooted names rest :=
  climb_append rooted names [] rest

theorem climb_whole {piece : List Char} (whole : '/' ∉ piece) :
    climb rooted names piece = keep rooted names piece := by
  rw [climb, pieces_of_whole whole]
  rfl

end

theorem Kept.climb {rooted : Bool} {names : List (List Char)} (kept : Kept rooted names)
    (path : List Char) : Kept rooted (climb rooted names path) := by
  have each (given : List (List Char)) (whole : ∀ piece ∈ given, '/' ∉ piece)
      {names : List (List Char)} (kept : Kept rooted names) :
      Kept rooted (given.foldl (Path.keep rooted) names) := by
    induction given generalizing names with
    | nil => exact kept
    | cons piece rest ih =>
      obtain ⟨first, others⟩ := List.forall_mem_cons.mp whole
      exact ih others (kept.keep first)
  exact each (pieces path) (fun piece => slash_not_mem_pieces) kept

theorem climb_intercalate (rooted : Bool) (stack : List (List Char)) {names : List (List Char)}
    (whole : ∀ name ∈ names, '/' ∉ name) :
    climb rooted stack (['/'].intercalate names) = names.foldl (keep rooted) stack := by
  induction names generalizing stack with
  | nil => rfl
  | cons name rest ih =>
    obtain ⟨first, others⟩ := List.forall_mem_cons.mp whole
    cases rest with
    | nil => rw [List.intercalate_singleton, climb_whole _ _ first, List.foldl_cons, List.foldl_nil]
    | cons next rest =>
      rw [List.intercalate_cons_cons, List.append_assoc, List.singleton_append, climb_append,
        climb_whole _ _ first, ih _ others]
      rfl

/-- Kept names are kept again, in the same order. -/
theorem Kept.foldl_reverse {rooted : Bool} {names : List (List Char)} (kept : Kept rooted names) :
    names.reverse.foldl (Path.keep rooted) [] = names := by
  induction names with
  | nil => rfl
  | cons name rest ih =>
    rw [List.reverse_cons, List.foldl_append, ih kept.2.2, List.foldl_cons, List.foldl_nil,
      kept.keep_self]

/-! ## Joining -/

theorem joinChars_absolute {path : List Char} (absolute : isAbsolute path = true)
    (base : List Char) : joinChars base path = path := by
  rw [joinChars, if_pos absolute]

/-- A base with the slash behind it that it needs before a name. -/
def withSlash (base : List Char) : List Char :=
  if base.isEmpty || base.getLast? == some '/' then base else base ++ ['/']

theorem joinChars_relative {path : List Char} (relative : isAbsolute path = false)
    (base : List Char) : joinChars base path = withSlash base ++ path := by
  rw [joinChars, if_neg (by simp [relative]), withSlash]
  split <;> simp

/-- Only a base that has no slash at its end, and is not empty, gets one. -/
theorem withSlash_cases (base : List Char) :
    withSlash base = base ∧ (base = [] ∨ ∃ front, base = front ++ ['/']) ∨
      withSlash base = base ++ ['/'] ∧ base ≠ [] ∧ base.getLast? ≠ some '/' := by
  unfold withSlash
  by_cases empty : base = []
  · left
    simp [empty]
  by_cases ends : base.getLast? = some '/'
  · left
    exact ⟨by simp [ends], .inr (List.getLast?_eq_some_iff.mp ends)⟩
  · right
    exact ⟨by simp [empty, ends], empty, ends⟩

theorem withSlash_of_last {base : List Char} (filled : base ≠ [])
    (ends : base.getLast? ≠ some '/') : withSlash base = base ++ ['/'] := by
  rw [withSlash, if_neg (by simp [filled, ends])]

theorem withSlash_append {path : List Char} (filled : path ≠ []) (front : List Char) :
    withSlash (front ++ path) = front ++ withSlash path := by
  have last : (front ++ path).getLast? = path.getLast? := List.getLast?_append_of_ne_nil _ filled
  by_cases ends : path.getLast? = some '/' <;> simp [withSlash, filled, last, ends]

theorem withSlash_withSlash (base : List Char) : withSlash (withSlash base) = withSlash base := by
  rcases withSlash_cases base with ⟨same, _⟩ | ⟨added, _⟩
  · rw [same, same]
  · rw [added]
    simp [withSlash]

theorem isAbsolute_append {front : List Char} (filled : front ≠ []) (rest : List Char) :
    isAbsolute (front ++ rest) = isAbsolute front := by
  obtain ⟨c, more, rfl⟩ := List.exists_cons_of_ne_nil filled
  rfl

theorem isAbsolute_joinChars {base path : List Char} (filled : base ≠ []) :
    isAbsolute (joinChars base path) = (isAbsolute path || isAbsolute base) := by
  cases absolute : isAbsolute path with
  | true => rw [joinChars_absolute absolute, absolute, Bool.true_or]
  | false =>
    rw [joinChars_relative absolute, Bool.false_or]
    rcases withSlash_cases base with ⟨same, _⟩ | ⟨added, _⟩
    · rw [same, isAbsolute_append filled]
    · rw [added, List.append_assoc, isAbsolute_append filled]

theorem joinChars_assoc (base path rest : List Char) :
    joinChars (joinChars base path) rest = joinChars base (joinChars path rest) := by
  cases last : isAbsolute rest with
  | true => rw [joinChars_absolute last, joinChars_absolute last, joinChars_absolute last]
  | false =>
    by_cases empty : path = []
    · subst empty
      have own : joinChars [] rest = rest := by simp [joinChars]
      rw [own, joinChars_relative last, joinChars_relative last, joinChars_relative rfl,
        List.append_nil, withSlash_withSlash]
    cases middle : isAbsolute path with
    | true =>
      have whole : isAbsolute (joinChars path rest) = true := by
        rw [isAbsolute_joinChars empty, middle, Bool.or_true]
      rw [joinChars_absolute middle, joinChars_absolute whole]
    | false =>
      have open_ : isAbsolute (joinChars path rest) = false := by
        rw [isAbsolute_joinChars empty, middle, last, Bool.or_false]
      rw [joinChars_relative middle, joinChars_relative open_, joinChars_relative last,
        joinChars_relative last, withSlash_append empty, List.append_assoc]

/-! ## Slashes at the root -/

/-- Three characters tell which slashes a path begins with. -/
theorem rootSlashes_three (a b c : Char) (rest : List Char) :
    rootSlashes (a :: b :: c :: rest) = rootSlashes [a, b, c] := by
  by_cases first : a = '/'
  · by_cases second : b = '/'
    · by_cases third : c = '/' <;> simp_all [rootSlashes]
    · simp_all [rootSlashes]
  · simp_all [rootSlashes]

/-- A relative path behind it does not change which slashes a path begins with. -/
theorem rootSlashes_append {rest : List Char} (relative : isAbsolute rest = false)
    (front : List Char) : rootSlashes (front ++ rest) = rootSlashes front := by
  rcases rest with _ | ⟨d, rest⟩
  · rw [List.append_nil]
  have other : d ≠ '/' := by simpa [isAbsolute] using relative
  rcases front with _ | ⟨a, _ | ⟨b, _ | ⟨c, more⟩⟩⟩
  · simp [rootSlashes, other]
  · by_cases a = '/' <;> simp_all [rootSlashes]
  · by_cases a = '/' <;> by_cases b = '/' <;> simp_all [rootSlashes]
  · simp only [List.cons_append]
    rw [rootSlashes_three, rootSlashes_three a b c more]

theorem rootSlashes_withSlash (base : List Char) :
    rootSlashes (withSlash base) = rootSlashes base := by
  rcases withSlash_cases base with ⟨same, _⟩ | ⟨added, filled, ends⟩
  · rw [same]
  rw [added]
  rcases base with _ | ⟨a, _ | ⟨b, _ | ⟨c, more⟩⟩⟩
  · exact absurd rfl filled
  · simp_all [rootSlashes]
  · by_cases a = '/' <;> simp_all [rootSlashes]
  · simp only [List.cons_append]
    rw [rootSlashes_three, rootSlashes_three a b c more]

theorem rootSlashes_cases (path : List Char) :
    isAbsolute path = false ∧ rootSlashes path = [] ∨
      isAbsolute path = true ∧ (rootSlashes path = ['/'] ∨ rootSlashes path = ['/', '/']) := by
  unfold rootSlashes
  split
  · exact .inr ⟨rfl, .inl rfl⟩
  · exact .inr ⟨rfl, .inr rfl⟩
  · exact .inr ⟨rfl, .inl rfl⟩
  · rename_i other
    left
    cases path with
    | nil => simp [isAbsolute]
    | cons c rest => simpa [isAbsolute] using fun same : c = '/' => other rest (by rw [same])

theorem isAbsolute_congr {path other : List Char} (same : rootSlashes path = rootSlashes other) :
    isAbsolute path = isAbsolute other := by
  rcases rootSlashes_cases path with ⟨first, none⟩ | ⟨first, some⟩ <;>
    rcases rootSlashes_cases other with ⟨second, none'⟩ | ⟨second, some'⟩ <;> simp_all

/-! ## Normalising -/

theorem normalizeChars_congr {path other : List Char}
    (root : rootSlashes path = rootSlashes other)
    (names : climb (isAbsolute path) [] path = climb (isAbsolute path) [] other) :
    normalizeChars path = normalizeChars other := by
  rw [normalizeChars, normalizeChars, normalNames_eq, normalNames_eq, ← isAbsolute_congr root,
    names, root]

theorem IsName.relative {name : List Char} (named : IsName name) (rest : List Char) :
    isAbsolute (name ++ rest) = false := by
  obtain ⟨filled, _, whole⟩ := named
  rw [isAbsolute_append filled]
  obtain ⟨c, more, rfl⟩ := List.exists_cons_of_ne_nil filled
  have other : '/' ≠ c := (List.ne_and_not_mem_of_not_mem_cons whole).1
  simpa [isAbsolute] using other.symm

theorem relative_intercalate {names : List (List Char)} (each : ∀ name ∈ names, IsName name) :
    isAbsolute (['/'].intercalate names) = false := by
  rcases names with _ | ⟨name, _ | ⟨next, rest⟩⟩
  · rfl
  · have named := each name (by simp)
    simpa using named.relative []
  · have named := each name (by simp)
    rw [List.intercalate_cons_cons, List.append_assoc]
    exact named.relative _

theorem intercalate_eq_nil {names : List (List Char)} (each : ∀ name ∈ names, IsName name)
    (empty : ['/'].intercalate names = []) : names = [] := by
  rcases names with _ | ⟨name, _ | ⟨next, rest⟩⟩
  · rfl
  · have named := each name (by simp)
    exact absurd (by simpa using empty) named.filled
  · simp [List.intercalate_cons_cons] at empty

/-- A path made of the slashes at its root and of kept names, the last one first. -/
structure Composed (root : List Char) (names : List (List Char)) (path : List Char) : Prop where
  shape : path = root ++ ['/'].intercalate names.reverse
  root_cases : root = [] ∨ root = ['/'] ∨ root = ['/', '/']
  kept : Kept (!root.isEmpty) names

/-- From such a path the slashes and the names are read again. -/
theorem Composed.read {root path : List Char} {names : List (List Char)}
    (composed : Composed root names path) :
    rootSlashes path = root ∧ climb (isAbsolute path) [] path = names := by
  obtain ⟨shape, root_cases, kept⟩ := composed
  have each : ∀ name ∈ names.reverse, IsName name := by simpa using kept.isName
  have relative := relative_intercalate each
  have walked : climb (!root.isEmpty) [] (['/'].intercalate names.reverse) = names := by
    rw [climb_intercalate _ _ fun name member => (each name member).whole]
    exact kept.foldl_reverse
  rw [shape, rootSlashes_append relative]
  rcases root_cases with rfl | rfl | rfl
  · rw [List.nil_append, relative]
    exact ⟨rfl, walked⟩
  · refine ⟨rfl, ?_⟩
    rw [List.singleton_append, climb_slash]
    exact walked
  · refine ⟨rfl, ?_⟩
    rw [List.cons_append, climb_slash, List.singleton_append, climb_slash]
    exact walked

/-- A path is normalised to its slashes and names; without any it becomes a dot. -/
theorem normalizeChars_cases (path : List Char) :
    Composed (rootSlashes path) (climb (isAbsolute path) [] path) (normalizeChars path) ∨
      rootSlashes path = [] ∧ climb (isAbsolute path) [] path = [] ∧
        normalizeChars path = ['.'] := by
  have start : Kept (isAbsolute path) [] := trivial
  have kept := start.climb path
  rw [normalizeChars, normalNames_eq]
  generalize climb (isAbsolute path) [] path = names at kept ⊢
  have composed : Composed (rootSlashes path) names
      (rootSlashes path ++ ['/'].intercalate names.reverse) := by
    rcases rootSlashes_cases path with ⟨relative, none⟩ | ⟨absolute, one | two⟩
    · exact ⟨rfl, .inl none, by simpa [none, relative] using kept⟩
    · exact ⟨rfl, .inr (.inl one), by simpa [one, absolute] using kept⟩
    · exact ⟨rfl, .inr (.inr two), by simpa [two, absolute] using kept⟩
  split
  · rename_i empty
    obtain ⟨root, joined⟩ := List.append_eq_nil_iff.mp empty
    have each : ∀ name ∈ names.reverse, IsName name := by simpa using kept.isName
    right
    exact ⟨root, List.reverse_eq_nil_iff.mp (intercalate_eq_nil each joined), rfl⟩
  · left
    exact composed

/-- Normalising keeps the slashes at the root and the names. -/
theorem read_normalizeChars (path : List Char) :
    rootSlashes (normalizeChars path) = rootSlashes path ∧
      climb (isAbsolute path) [] (normalizeChars path) = climb (isAbsolute path) [] path := by
  rcases normalizeChars_cases path with composed | ⟨root, names, dot⟩
  · obtain ⟨root, names⟩ := composed.read
    rw [isAbsolute_congr root] at names
    exact ⟨root, names⟩
  · rw [dot, root, names]
    exact ⟨rfl, rfl⟩

/-- Names are walked over from where the base leads. -/
theorem climb_withSlash_append (rooted : Bool) (base path : List Char) :
    climb rooted [] (withSlash base ++ path) = climb rooted (climb rooted [] base) path := by
  rcases withSlash_cases base with ⟨same, rfl | ⟨front, rfl⟩⟩ | ⟨added, _⟩
  · rfl
  · rw [same, List.append_assoc, List.singleton_append, climb_append, climb_append, climb_nil]
  · rw [added, List.append_assoc, List.singleton_append, climb_append]

/-- It makes no difference when the base of a path is normalised first. -/
theorem normalizeChars_joinChars (base path : List Char) :
    normalizeChars (joinChars (normalizeChars base) path) =
      normalizeChars (joinChars base path) := by
  cases absolute : isAbsolute path with
  | true => rw [joinChars_absolute absolute, joinChars_absolute absolute]
  | false =>
    rw [joinChars_relative absolute, joinChars_relative absolute]
    obtain ⟨root, names⟩ := read_normalizeChars base
    have roots (base : List Char) : rootSlashes (withSlash base ++ path) = rootSlashes base := by
      rw [rootSlashes_append absolute, rootSlashes_withSlash]
    have same : rootSlashes (withSlash (normalizeChars base) ++ path) = rootSlashes base := by
      rw [roots, root]
    apply normalizeChars_congr
    · rw [same, roots]
    · rw [isAbsolute_congr same, climb_withSlash_append, climb_withSlash_append, names]

/-! ## Normal paths -/

/-- An absolute path that leaves nothing to normalise: one or two slashes, and then names with
single slashes between them. None of the names is empty or a dot or two. -/
def IsNormal (path : List Char) : Prop :=
  ∃ root names, (root = ['/'] ∨ root = ['/', '/']) ∧
    (∀ name ∈ names, IsName name ∧ name ≠ ['.', '.']) ∧ path = root ++ ['/'].intercalate names

theorem isNormal_normalizeChars {path : List Char} (absolute : isAbsolute path = true) :
    IsNormal (normalizeChars path) := by
  rcases rootSlashes_cases path with ⟨relative, _⟩ | ⟨_, root⟩
  · simp [absolute] at relative
  rcases normalizeChars_cases path with composed | ⟨none, _⟩
  · have kept : Kept true (climb (isAbsolute path) [] path) := by
      have kept := composed.kept
      rcases root with one | two
      · rwa [one] at kept
      · rwa [two] at kept
    refine ⟨rootSlashes path, _, root, ?_, composed.shape⟩
    intro name member
    rw [List.mem_reverse] at member
    exact ⟨kept.isName name member, kept.ne_up name member⟩
  · simp [none] at root

theorem IsNormal.absolute {path : List Char} (normal : IsNormal path) :
    isAbsolute path = true := by
  obtain ⟨root, names, rfl | rfl, _, rfl⟩ := normal <;> rfl

theorem kept_of_names {names : List (List Char)}
    (each : ∀ name ∈ names, IsName name ∧ name ≠ ['.', '.']) : Kept true names := by
  induction names with
  | nil => trivial
  | cons name rest ih =>
    obtain ⟨⟨named, other⟩, more⟩ := List.forall_mem_cons.mp each
    exact ⟨named, fun same => absurd same other, ih more⟩

theorem IsNormal.normalize {path : List Char} (normal : IsNormal path) :
    normalizeChars path = path := by
  have absolute := normal.absolute
  obtain ⟨root, names, root_cases, each, shape⟩ := normal
  have composed : Composed root names.reverse path := by
    refine ⟨by rwa [List.reverse_reverse], .inr root_cases, ?_⟩
    have kept : Kept true names.reverse := kept_of_names (by simpa using each)
    rcases root_cases with rfl | rfl <;> exact kept
  obtain ⟨own, walked⟩ := composed.read
  rcases normalizeChars_cases path with again | ⟨none, _⟩
  · rw [again.shape, own, walked, ← composed.shape]
  · rcases root_cases with rfl | rfl <;> simp [own] at none

end LineScript.Path
