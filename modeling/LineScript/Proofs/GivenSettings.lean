import LineScript.Settings

/-!
# Which settings are accepted
The settings in a map are accepted exactly if all keys are known and all values that are given fit.
The first that does not fit is refused by a fault in the settings, unless looking for it stumbles:
over unknown keys that cannot be put in order, over a naming of a kind that cannot be looked up, or
over an integer that is too long to be shown (`ofEntries_answers`).
-/
namespace LineScript

/-! ## Keys in order -/

namespace Scalar

/-- Scalars of one family can be compared with each other. -/
inductive Family where
  | numbers
  | texts
  | dates
  | localMoments
  | zonedMoments
  | bytes
  deriving DecidableEq

/-- The family of a scalar. Null has none, and cannot be compared even with itself. -/
def family? : Scalar → Option Family
  | .null => none
  | .bool _ => some .numbers
  | .integer _ => some .numbers
  | .float _ => some .numbers
  | .text _ => some .texts
  | .date _ => some .dates
  | .moment value => some (if value.offset.isSome then .zonedMoments else .localMoments)
  | .bytes _ => some .bytes

/-- Two scalars can be compared. -/
def Comparable (a b : Scalar) : Prop := ∃ family, a.family? = some family ∧ b.family? = some family

theorem Comparable.symm {a b : Scalar} : a.Comparable b → b.Comparable a
  | ⟨family, left, right⟩ => ⟨family, right, left⟩

theorem Comparable.trans {a b c : Scalar} : a.Comparable b → b.Comparable c → a.Comparable c
  | ⟨_, left, between⟩, ⟨family, between', right⟩ =>
    ⟨family, left.trans (between.symm.trans between'), right⟩

theorem place?_isSome (a : Scalar) : a.place?.isSome = true ↔ a.family? = some .numbers := by
  cases a with
  | bool | integer => simp [place?, ratio?, family?]
  | float value =>
    simp only [place?, family?, iff_true]
    cases ratio? (.float value) <;> rfl
  | moment value =>
    simp only [place?, ratio?, family?]
    split <;> simp
  | _ => simp [place?, ratio?, family?]

/-- Scalars that are compared by their places are numbers. -/
theorem isBefore?_of_places {a b : Scalar} (compared : a.isBefore? b = match a.place?, b.place? with
      | some (i, m, d), some (j, n, e) => some (decide (i < j ∨ i = j ∧ m * e < n * d))
      | _, _ => none) :
    (a.isBefore? b).isSome = true ↔ a.family? = some .numbers ∧ b.family? = some .numbers := by
  rw [compared, ← place?_isSome, ← place?_isSome]
  cases a.place? <;> cases b.place? <;> simp

/-- Two scalars are put in order exactly if they are of one family. -/
theorem isBefore?_isSome (a b : Scalar) : (a.isBefore? b).isSome = true ↔ a.Comparable b := by
  cases a <;> cases b
  -- the families with an order of their own come first, all other pairs are compared as numbers
  case text.text | date.date | bytes.bytes => simp [isBefore?, Comparable, family?]
  case moment.moment left right =>
    cases zone : left.offset.isSome <;> cases zone' : right.offset.isSome <;>
      simp [isBefore?, Calendar.Moment.isLike, Comparable, family?, zone, zone']
  all_goals
    rw [isBefore?_of_places rfl]
    grind [Comparable, family?]

end Scalar

namespace Settings

/-- Keys are put in order exactly if any two of them can be compared; otherwise two that cannot be
compared are to blame. -/
theorem sortKeys_cases (keys : List Scalar) :
    (keys.Pairwise Scalar.Comparable ∧ ∃ sorted, sortKeys keys = .ok sorted ∧ sorted.Perm keys) ∨
      ¬keys.Pairwise Scalar.Comparable ∧ ∃ a ∈ keys, ∃ b ∈ keys, ¬a.Comparable b ∧
        sortKeys keys = .error (.kind (b.mismatch a)) := by
  cases keys with
  | nil => exact .inl ⟨.nil, [], rfl, .refl _⟩
  | cons first rest =>
    cases found : rest.find? fun key => (first.isBefore? key).isNone with
    | some key =>
      right
      have member := List.mem_of_find?_eq_some found
      have apart : ¬first.Comparable key := by
        have := List.find?_some found
        rw [← Scalar.isBefore?_isSome]
        simpa using this
      refine ⟨fun pairwise => apart (List.rel_of_pairwise_cons pairwise member), ?_⟩
      refine ⟨first, List.mem_cons_self, key, List.mem_cons_of_mem _ member, apart, ?_⟩
      simp only [sortKeys, found]
    | none =>
      left
      have near : ∀ key ∈ rest, first.Comparable key := by
        intro key member
        rw [← Scalar.isBefore?_isSome]
        simpa [Option.isSome_iff_ne_none] using List.find?_eq_none.mp found key member
      refine ⟨List.pairwise_cons.mpr ⟨near, ?_⟩, ?_⟩
      · exact List.pairwise_of_forall_mem_list fun a left b right =>
          (near a left).symm.trans (near b right)
      · simp only [sortKeys, found]
        exact ⟨_, rfl, List.mergeSort_perm ..⟩

/-! ## Values that fit -/

/-- A setting as a value, by its name. -/
def valueOf (settings : Settings) (name : String) : Value :=
  if name = "log" then .scalar (.bool settings.log)
  else if name = "stdout" then .scalar (.bool settings.stdout)
  else if name = "stderr" then .scalar (.bool settings.stderr)
  else if name = "condition_names" then .scalar (.text settings.naming)
  else .scalar (.text settings.workdir)

/-- A value fits a setting: the naming has to be one that can be asked for, the working directory a
text that is more than blanks, and the switches take truth values. -/
def fits (name : String) (value : Value) : Bool :=
  if name = "condition_names" then match value with
    | .scalar (.text naming) => naming == "short" || naming == "descriptive"
    | _ => false
  else if name = "workdir" then match value with
    | .scalar (.text path) => path.toList.any (!Text.isBlank ·)
    | _ => false
  else match value with
    | .scalar (.bool _) => true
    | _ => false

/-- The fault that a value makes which does not fit: a fault in the settings that names the setting
and shows the value, if the value can be looked up where it has to be, and shown. -/
def misfit (name : String) (value : Value) : Fault :=
  if name = "workdir" then .settings .emptyWorkdir
  else if name = "condition_names" then match value.unhashable? with
    | some kind => .kind (.unhashable kind)
    | none =>
      if value.isShowable then .settings (.unknownNaming value.shown) else .value .unshowable
  else if value.isShowable then .settings (.notBoolean name value.shown)
  else .value .unshowable

/-- The setting with the value that is given for it, if there is one that does not fit. -/
def unfit? (given : String → Option Value) (name : String) : Option (String × Value) :=
  ((given name).filter (!fits name ·)).map (name, ·)

/-- The first setting, in the order of the settings, whose value does not fit, with this value. -/
def firstUnfit? (given : String → Option Value) : Option (String × Value) :=
  names.findSome? (unfit? given)

variable {given : String → Option Value}

/-- What reading one setting comes to: its value, or the fault that the given value makes. -/
inductive Reads {α : Type} (given : String → Option Value) (name : String) (value : α → Value) :
    Except Fault α → Prop
  | accepts {own : α} (same : value own = (given name).getD (default.valueOf name))
      (fit : unfit? given name = none) : Reads given name value (.ok own)
  | refuses {bad : Value} (unfit : unfit? given name = some (name, bad)) :
      Reads given name value (.error (misfit name bad))

section
variable {α : Type} {name : String} {value : α → Value}

theorem Reads.absent {own : α} (missing : given name = none)
    (same : value own = default.valueOf name) : Reads given name value (.ok own) :=
  .accepts (by rw [missing, same]; rfl) (by simp [unfit?, missing])

theorem Reads.of_fits {own : α} (known : given name = some (value own))
    (fit : fits name (value own) = true) : Reads given name value (.ok own) :=
  .accepts (by rw [known]; rfl) (by simp [unfit?, known, fit])

theorem Reads.of_not_fits {bad : Value} (known : given name = some bad)
    (unfit : fits name bad = false) : Reads given name value (.error (misfit name bad)) :=
  .refuses (by simp [unfit?, known, unfit])

end

theorem fits_workdir (path : String) :
    fits "workdir" (.scalar (.text path)) = !Text.isBlankText path := by
  simp [fits, Text.isBlankText, List.not_all_eq_any_not]

theorem readSwitch_reads {name : String}
    (switch : name = "log" ∨ name = "stdout" ∨ name = "stderr") :
    Reads given name (fun own => .scalar (.bool own)) (readSwitch name (given name)) := by
  have own : default.valueOf name = .scalar (.bool false) := by
    rcases switch with rfl | rfl | rfl <;> rfl
  have naming : name ≠ "condition_names" := by rcases switch with rfl | rfl | rfl <;> decide
  have workdir : name ≠ "workdir" := by rcases switch with rfl | rfl | rfl <;> decide
  have fault (value : Value) : misfit name value = refusal value (.notBoolean name) := by
    rw [misfit, if_neg workdir, if_neg naming]
    rfl
  cases known : given name with
  | none => exact .absent known own.symm
  | some value =>
    have refused (unfit : fits name value = false) := @Reads.of_not_fits given Bool name
      (fun own => .scalar (.bool own)) value known unfit
    rw [fault] at refused
    cases value with
    | scalar value => cases value with
      | bool on => exact .of_fits known (by simp [fits, naming, workdir])
      | _ => exact refused (by simp [fits, naming, workdir])
    | _ => exact refused (by simp [fits, naming, workdir])

theorem readNaming_of_not_fits {value : Value} (unfit : fits "condition_names" value = false) :
    readNaming (some value) = .error (misfit "condition_names" value) := by
  have naming : "condition_names" ≠ "workdir" := by decide
  rw [misfit, if_neg naming, if_pos rfl]
  cases kind : value.unhashable? with
  | some kind => simp only [readNaming, kind]
  | none =>
    simp only [readNaming, kind]
    cases value with
    | scalar value => cases value with
      | text name =>
        have unknown : name ∉ namings := by simpa [fits, namings, and_comm] using unfit
        simp only [if_neg unknown]
        rfl
      | _ => rfl
    | _ => rfl

theorem readNaming_reads : Reads given "condition_names" (fun own => .scalar (.text own))
    (readNaming (given "condition_names")) := by
  cases known : given "condition_names" with
  | none => exact .absent known rfl
  | some value => cases fit : fits "condition_names" value with
    | false =>
      rw [readNaming_of_not_fits fit]
      exact .of_not_fits known fit
    | true => cases value with
      | scalar value => cases value with
        | text name =>
          have asked : name ∈ namings := by simpa [fits, namings, or_comm] using fit
          have read : readNaming (some (.scalar (.text name))) = .ok name := by
            simp [readNaming, Value.unhashable?, asked]
          rw [read]
          exact .of_fits known fit
        | _ => cases fit
      | _ => cases fit

theorem readWorkdir_reads : Reads given "workdir" (fun own => .scalar (.text own))
    (readWorkdir (given "workdir")) := by
  cases known : given "workdir" with
  | none => exact .absent known rfl
  | some value =>
    have refused (unfit : fits "workdir" value = false) := @Reads.of_not_fits given String
      _ (fun own => .scalar (.text own)) value known unfit
    cases value with
    | scalar value => cases value with
      | text path =>
        have fit := fits_workdir path
        rw [readWorkdir]
        cases blank : Text.isBlankText path with
        | true => exact refused (by rw [fit, blank]; rfl)
        | false => exact .of_fits known (by rw [fit, blank]; rfl)
      | _ => exact refused rfl
    | _ => exact refused rfl

/-! ## Settings that are read -/

/-- The settings are read if all values that are given fit; otherwise the first that does not makes
the fault. -/
theorem read_cases (given : String → Option Value) :
    (firstUnfit? given = none ∧ ∃ settings, read given = .ok settings ∧
        ∀ name ∈ names, settings.valueOf name = (given name).getD (default.valueOf name)) ∨
      ∃ name bad, firstUnfit? given = some (name, bad) ∧ read given = .error (misfit name bad) := by
  have log := @readSwitch_reads given "log" (by simp)
  have stdout := @readSwitch_reads given "stdout" (by simp)
  have stderr := @readSwitch_reads given "stderr" (by simp)
  have naming := @readNaming_reads given
  have workdir := @readWorkdir_reads given
  unfold read firstUnfit? names
  generalize readSwitch "log" (given "log") = log' at log ⊢
  cases log with
  | refuses unfit => exact .inr ⟨_, _, by simp [unfit], rfl⟩
  | accepts log noLog =>
  generalize readSwitch "stdout" (given "stdout") = stdout' at stdout ⊢
  cases stdout with
  | refuses unfit => exact .inr ⟨_, _, by simp [noLog, unfit], rfl⟩
  | accepts stdout noStdout =>
  generalize readSwitch "stderr" (given "stderr") = stderr' at stderr ⊢
  cases stderr with
  | refuses unfit => exact .inr ⟨_, _, by simp [noLog, noStdout, unfit], rfl⟩
  | accepts stderr noStderr =>
  generalize readNaming (given "condition_names") = naming' at naming ⊢
  cases naming with
  | refuses unfit => exact .inr ⟨_, _, by simp [noLog, noStdout, noStderr, unfit], rfl⟩
  | accepts naming noNaming =>
  generalize readWorkdir (given "workdir") = workdir' at workdir ⊢
  cases workdir with
  | refuses unfit => exact .inr ⟨_, _, by simp [noLog, noStdout, noStderr, noNaming, unfit], rfl⟩
  | accepts workdir noWorkdir =>
    refine .inl ⟨by simp [noLog, noStdout, noStderr, noNaming, noWorkdir], _, rfl, ?_⟩
    simp only [List.forall_mem_cons]
    exact ⟨log, stdout, stderr, naming, workdir, by simp⟩

theorem firstUnfit?_eq_none : firstUnfit? given = none ↔
    ∀ name ∈ names, ∀ value, given name = some value → fits name value = true := by
  simp [firstUnfit?, unfit?, Option.filter_eq_none_iff]

theorem isValid_iff (settings : Settings) :
    settings.IsValid ↔ ∀ name ∈ names, fits name (settings.valueOf name) = true := by
  have workdir : fits "workdir" (settings.valueOf "workdir") = !Text.isBlankText settings.workdir :=
    fits_workdir settings.workdir
  have naming : fits "condition_names" (settings.valueOf "condition_names") = true ↔
      settings.naming ∈ namings := by simp [fits, valueOf, namings, or_comm]
  have switches : fits "log" (settings.valueOf "log") = true ∧
      fits "stdout" (settings.valueOf "stdout") = true ∧
      fits "stderr" (settings.valueOf "stderr") = true := ⟨rfl, rfl, rfl⟩
  simp [IsValid, names, switches, naming, workdir]

theorem eq_of_valueOf {settings other : Settings}
    (same : ∀ name ∈ names, settings.valueOf name = other.valueOf name) : settings = other := by
  simp only [names, List.forall_mem_cons] at same
  obtain ⟨log, stdout, stderr, naming, workdir, _⟩ := same
  cases settings
  cases other
  simp_all [valueOf]

/-! ## Maps -/

/-- The keys of a map that name no setting. -/
def unknownKeys (entries : List (Scalar × Value)) : List Scalar :=
  (entries.map (·.1)).filter (!isKnown ·)

/-- The value that a map gives for a setting. -/
def givenBy (entries : List (Scalar × Value)) (name : String) : Option Value :=
  entries.lookup (.text name)

/-- The settings that a map asks for can be had: its keys are known, and its values fit. -/
def Acceptable (entries : List (Scalar × Value)) : Prop :=
  unknownKeys entries = [] ∧
    ∀ name ∈ names, ∀ value, givenBy entries name = some value → fits name value = true

/-- A value that does not fit gets in the way of saying so: as a naming, it is of a kind that cannot
be looked up, or it would have to be shown and holds an integer that is too long. -/
def GetsInTheWay (name : String) (bad : Value) : Prop :=
  name = "condition_names" ∧ bad.unhashable? ≠ none ∨ name ≠ "workdir" ∧ bad.isShowable = false

/-- Whoever looks for what is wrong with a map stumbles: over unknown keys that cannot be compared
or shown, or over the first value that does not fit. -/
def Stumbles (entries : List (Scalar × Value)) : Prop :=
  ¬(unknownKeys entries).Pairwise Scalar.Comparable ∨
    (∃ key ∈ unknownKeys entries, key.isShowable = false) ∨
    unknownKeys entries = [] ∧
      ∃ name bad, firstUnfit? (givenBy entries) = some (name, bad) ∧ GetsInTheWay name bad

/-- What becomes of the settings in a map. -/
inductive Answers (path : String) (entries : List (Scalar × Value)) : Except Fault Settings → Prop
  | unordered {a b : Scalar} (mixed : ¬(unknownKeys entries).Pairwise Scalar.Comparable)
      (left : a ∈ unknownKeys entries) (right : b ∈ unknownKeys entries) (apart : ¬a.Comparable b) :
      Answers path entries (.error (.kind (b.mismatch a)))
  | unshowable {key : Scalar} (member : key ∈ unknownKeys entries)
      (long : key.isShowable = false) : Answers path entries (.error (.value .unshowable))
  | unknown {sorted : List Scalar} (some : unknownKeys entries ≠ [])
      (ordered : (unknownKeys entries).Pairwise Scalar.Comparable)
      (shown : ∀ key ∈ unknownKeys entries, key.isShowable = true)
      (perm : sorted.Perm (unknownKeys entries)) :
      Answers path entries (.error (.settings (.unknownKeys path (sorted.map Scalar.words))))
  | unfit {name : String} {bad : Value} (known : unknownKeys entries = [])
      (first : firstUnfit? (givenBy entries) = some (name, bad)) :
      Answers path entries (.error (misfit name bad))
  | accepted {settings : Settings} (known : unknownKeys entries = [])
      (fit : firstUnfit? (givenBy entries) = none)
      (same : ∀ name ∈ names,
        settings.valueOf name = (givenBy entries name).getD (default.valueOf name)) :
      Answers path entries (.ok settings)

theorem answers (path : String) (entries : List (Scalar × Value)) :
    Answers path entries (ofEntries path entries) := by
  have unfolded : ofEntries path entries = (sortKeys (unknownKeys entries)).bind fun unknown =>
      if unknown.isEmpty then read (givenBy entries)
      else if unknown.all Scalar.isShowable then
        .error (.settings (.unknownKeys path (unknown.map Scalar.words)))
      else .error (.value .unshowable) := rfl
  rw [unfolded]
  rcases sortKeys_cases (unknownKeys entries) with
    ⟨ordered, sorted, sorts, perm⟩ | ⟨mixed, a, left, b, right, apart, fails⟩
  · rw [sorts]
    by_cases known : unknownKeys entries = []
    · obtain rfl : sorted = [] := List.perm_nil.mp (known ▸ perm)
      rcases read_cases (givenBy entries) with
        ⟨fit, settings, read, same⟩ | ⟨name, bad, first, read⟩
      · exact read ▸ .accepted known fit same
      · exact read ▸ .unfit known first
    · have some : sorted ≠ [] := fun none => known (List.nil_perm.mp (none ▸ perm))
      have nonempty : sorted.isEmpty = false := List.isEmpty_eq_false_iff.mpr some
      by_cases shown : ∀ key ∈ unknownKeys entries, key.isShowable = true
      · have all : sorted.all Scalar.isShowable = true :=
          List.all_eq_true.mpr fun key member => shown key (perm.mem_iff.mp member)
        simp only [Except.bind, nonempty, all]
        exact .unknown known ordered shown perm
      · obtain ⟨key, member, long⟩ : ∃ key ∈ unknownKeys entries, key.isShowable = false := by
          simpa using shown
        have all : sorted.all Scalar.isShowable = false :=
          List.all_eq_false.mpr ⟨key, perm.mem_iff.mpr member, by simp [long]⟩
        simp only [Except.bind, nonempty, all]
        exact .unshowable member long
  · rw [fails]
    exact .unordered mixed left right apart

/-- A value that does not fit is refused by a fault in the settings, unless it gets in the way. -/
theorem misfit_cases (name : String) (bad : Value) :
    ¬GetsInTheWay name bad ∧ (∃ reason, misfit name bad = .settings reason) ∨
      GetsInTheWay name bad ∧
        ((∃ kind, misfit name bad = .kind kind) ∨ misfit name bad = .value .unshowable) := by
  unfold GetsInTheWay misfit
  by_cases workdir : name = "workdir"
  · left
    simp [workdir]
  by_cases naming : name = "condition_names"
  · cases kind : bad.unhashable? <;> cases shown : bad.isShowable <;> simp [naming]
  · cases shown : bad.isShowable <;> simp [workdir, naming]

section
variable {entries : List (Scalar × Value)}

theorem acceptable_iff :
    Acceptable entries ↔ unknownKeys entries = [] ∧ firstUnfit? (givenBy entries) = none := by
  rw [Acceptable, firstUnfit?_eq_none]

theorem stumbles_of_known (known : unknownKeys entries = []) :
    Stumbles entries ↔
      ∃ name bad, firstUnfit? (givenBy entries) = some (name, bad) ∧ GetsInTheWay name bad := by
  simp [Stumbles, known]

/-- A map is accepted, or it is refused by a fault in the settings, or whoever looks for what is
wrong with it stumbles: just one of the three. -/
theorem ofEntries_cases (path : String) (entries : List (Scalar × Value)) :
    Acceptable entries ∧ ¬Stumbles entries ∧
        (∃ settings, ofEntries path entries = .ok settings ∧ ∀ name ∈ names,
          settings.valueOf name = (givenBy entries name).getD (default.valueOf name)) ∨
      ¬Acceptable entries ∧ ¬Stumbles entries ∧
        (∃ reason, ofEntries path entries = .error (.settings reason)) ∨
      ¬Acceptable entries ∧ Stumbles entries ∧
        ((∃ kind, ofEntries path entries = .error (.kind kind)) ∨
          ofEntries path entries = .error (.value .unshowable)) := by
  have ends := answers path entries
  generalize ofEntries path entries = result at ends ⊢
  rw [acceptable_iff]
  cases ends with
  | unordered mixed left right apart =>
    right; right
    exact ⟨fun fine => mixed (fine.1 ▸ .nil), .inl mixed, .inl ⟨_, rfl⟩⟩
  | unshowable member long =>
    right; right
    exact ⟨fun fine => List.ne_nil_of_mem member fine.1, .inr (.inl ⟨_, member, long⟩), .inr rfl⟩
  | unknown some ordered shown perm =>
    right; left
    refine ⟨fun fine => some fine.1, ?_, ⟨_, rfl⟩⟩
    rintro (mixed | ⟨key, member, long⟩ | ⟨none, _⟩)
    · exact mixed ordered
    · exact absurd (shown key member) (by simp [long])
    · exact some none
  | @unfit name bad known first =>
    right
    have refused : ¬(unknownKeys entries = [] ∧ firstUnfit? (givenBy entries) = none) := by
      simp [first]
    have stumbles : Stumbles entries ↔ GetsInTheWay name bad := by
      rw [stumbles_of_known known, first]
      constructor
      · rintro ⟨_, _, same, way⟩
        obtain ⟨rfl, rfl⟩ := Prod.mk.inj (Option.some.inj same)
        exact way
      · exact fun way => ⟨name, bad, rfl, way⟩
    rw [stumbles]
    rcases misfit_cases name bad with ⟨clear, reason⟩ | ⟨way, fault⟩
    · left
      obtain ⟨reason, same⟩ := reason
      exact ⟨refused, clear, reason, by rw [same]⟩
    · right
      refine ⟨refused, way, fault.imp ?_ ?_⟩
      · rintro ⟨kind, same⟩
        exact ⟨kind, by rw [same]⟩
      · exact fun same => by rw [same]
  | accepted known fit same =>
    left
    refine ⟨⟨known, fit⟩, ?_, ⟨_, rfl, same⟩⟩
    rw [stumbles_of_known known, fit]
    simp

theorem isValid_of_acceptable (fine : Acceptable entries) {settings : Settings}
    (same : ∀ name ∈ names,
      settings.valueOf name = (givenBy entries name).getD (default.valueOf name)) :
    settings.IsValid := by
  rw [isValid_iff]
  intro name member
  rw [same name member]
  cases known : givenBy entries name with
  | none => exact (isValid_iff default).mp (by decide) name member
  | some value => exact fine.2 name member value known

end

/-- The settings in a map are accepted exactly if its keys are known and its values fit; they are
valid then, every setting has the value that is given for it, and the others have their defaults.
Otherwise they are refused by a fault in the settings, except exactly if whoever looks for what is
wrong stumbles: that makes a fault of kinds, or of a value that cannot be shown. -/
theorem ofEntries_answers (path : String) (entries : List (Scalar × Value)) :
    (∀ settings, ofEntries path entries = .ok settings ↔ Acceptable entries ∧ settings.IsValid ∧
      ∀ name ∈ names,
        settings.valueOf name = (givenBy entries name).getD (default.valueOf name)) ∧
    ((∃ settings, ofEntries path entries = .ok settings) ↔ Acceptable entries) ∧
    ((∃ reason, ofEntries path entries = .error (.settings reason)) ↔
      ¬Acceptable entries ∧ ¬Stumbles entries) ∧
    ((∃ kind, ofEntries path entries = .error (.kind kind)) ∨
      ofEntries path entries = .error (.value .unshowable) ↔ Stumbles entries) := by
  rcases ofEntries_cases path entries with
    ⟨fine, clear, settings, read, same⟩ | ⟨refused, clear, reason, read⟩ |
    ⟨refused, stumbles, fault⟩
  · refine ⟨fun other => ⟨?_, ?_⟩, by simp [read, fine], by simp [read, fine],
      by simp [read, clear]⟩
    · intro accepted
      obtain rfl : settings = other := Except.ok.inj (read.symm.trans accepted)
      exact ⟨fine, isValid_of_acceptable fine same, same⟩
    · rintro ⟨_, _, values⟩
      have equal : settings = other := eq_of_valueOf fun name member =>
        (same name member).trans (values name member).symm
      rw [read, equal]
  · simp [read, refused, clear]
  · rcases fault with ⟨kind, read⟩ | read
    · simp [read, stumbles, refused]
    · simp [read, stumbles, refused]

/-- A naming that is a list cannot be looked up, and keys of two kinds cannot be put in order: maps
that are wrong without a fault in the settings. -/
theorem ofEntries_stumbles :
    ofEntries "c.yaml" [(.text "condition_names", .list [.scalar (.text "short")])] =
        .error (.kind (.unhashable "list")) ∧
      ofEntries "c.yaml" [(.integer 1, .scalar (.text "a")), (.text "x", .scalar (.text "b"))] =
        .error (.kind (.incomparable "str" "int")) := ⟨rfl, rfl⟩

end Settings

end LineScript
