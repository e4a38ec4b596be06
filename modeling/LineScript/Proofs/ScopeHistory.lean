import LineScript.Proofs.ScopeTree
import Mathlib.Data.List.Induction

/-!
# Scopes and their history
Scopes are made and canceled one after the other. Whether one counts as canceled can be told from
what was done so far: it does exactly if it was canceled itself or one was that it descends from
(`isCanceled_history`). What a change adds to the history it adds to the scopes, and nothing else
(`under_change`, `marked_change`).
-/
namespace LineScript

/-! ## Histories -/

/-- Scopes are made by this change. -/
def ScopeChange.isMaking : ScopeChange → Bool
  | .background | .child _ => true
  | .cancel _ => false

/-- What was done with scopes, in order. -/
abbrev ScopeHistory := List ScopeChange

namespace ScopeHistory

def made (history : ScopeHistory) : Nat := history.countP ScopeChange.isMaking

/-- A scope was made under another one, which was there already. The scopes are numbered in the
order in which they were made. -/
def MadeUnder (history : ScopeHistory) (number parent : Nat) : Prop :=
  ∃ before after : ScopeHistory, history = before ++ .child parent :: after ∧
    number = before.made ∧ parent < number

/-- A scope was canceled once it was there. -/
def Canceled (history : ScopeHistory) (number : Nat) : Prop :=
  ∃ before after : ScopeHistory, history = before ++ .cancel number :: after ∧ number < before.made

/-- A scope is another one, or was made under it over any number of generations. -/
def Descends (history : ScopeHistory) : Nat → Nat → Prop :=
  Relation.ReflTransGen history.MadeUnder

/-- The change that stands somewhere in a history with one more change is this last one, or stood
there before. -/
private theorem concat_split {history before after : ScopeHistory} {last change : ScopeChange} :
    history ++ [last] = before ++ change :: after ↔
      (last = change ∧ history = before ∧ after = []) ∨
        ∃ rest, history = before ++ change :: rest ∧ after = rest ++ [last] := by
  constructor
  · intro same
    rcases List.eq_nil_or_concat after with rfl | ⟨rest, newest, rfl⟩
    · obtain ⟨front, back⟩ := List.append_inj' same rfl
      exact .inl ⟨by simpa using back, front, rfl⟩
    · have shown : history ++ [last] = (before ++ change :: rest) ++ [newest] := by simpa using same
      obtain ⟨front, back⟩ := List.append_inj' shown rfl
      exact .inr ⟨rest, front, by simpa using back.symm⟩
  · rintro (⟨rfl, rfl, rfl⟩ | ⟨rest, rfl, rfl⟩)
    · rfl
    · simp

theorem made_concat (history : ScopeHistory) (change : ScopeChange) :
    made (history ++ [change]) = history.made + if change.isMaking then 1 else 0 := by
  simp [made, List.countP_append, List.countP_singleton]

theorem madeUnder_concat (history : ScopeHistory) (change : ScopeChange) (number parent : Nat) :
    MadeUnder (history ++ [change]) number parent ↔ history.MadeUnder number parent ∨
      change = .child parent ∧ number = history.made ∧ parent < number := by
  constructor
  · rintro ⟨before, after, same, numbered, older⟩
    obtain ⟨rfl, rfl, rfl⟩ | ⟨rest, rfl, rfl⟩ := concat_split.mp same
    · exact .inr ⟨rfl, numbered, older⟩
    · exact .inl ⟨before, rest, rfl, numbered, older⟩
  · rintro (⟨before, after, rfl, numbered, older⟩ | ⟨rfl, numbered, older⟩)
    · exact ⟨before, after ++ [change], by simp, numbered, older⟩
    · exact ⟨history, [], rfl, numbered, older⟩

theorem canceled_concat (history : ScopeHistory) (change : ScopeChange) (number : Nat) :
    Canceled (history ++ [change]) number ↔ history.Canceled number ∨
      change = .cancel number ∧ number < history.made := by
  constructor
  · rintro ⟨before, after, same, there⟩
    obtain ⟨rfl, rfl, rfl⟩ | ⟨rest, rfl, rfl⟩ := concat_split.mp same
    · exact .inr ⟨rfl, there⟩
    · exact .inl ⟨before, rest, rfl, there⟩
  · rintro (⟨before, after, rfl, there⟩ | ⟨rfl, there⟩)
    · exact ⟨before, after ++ [change], by simp, there⟩
    · exact ⟨history, [], rfl, there⟩

end ScopeHistory

/-! ## What a change does to scopes -/

namespace Scopes

variable (scopes : Scopes)

theorem size_change (change : ScopeChange) :
    (scopes.change change).size = scopes.size + if change.isMaking then 1 else 0 := by
  cases change with
  | background | child => rfl
  | cancel number => exact scopes.size_cancel number

theorem find?_making (newest : Scope) (number : Nat) :
    find? ⟨newest :: scopes.newestFirst⟩ number =
      if number = scopes.size then some newest else scopes.find? number :=
  find?_cons newest scopes.newestFirst number

/-- Only a scope that is made under another one stands there afterwards and did not before. -/
theorem under_change (change : ScopeChange) (number parent : Nat) :
    (scopes.change change).Under number parent ↔ scopes.Under number parent ∨
      change = .child parent ∧ number = scopes.size ∧ parent < number := by
  have missing : scopes.find? scopes.size = Option.none := find?_eq_none (Nat.le_refl _)
  cases change with
  | background =>
    simp only [Under, Scopes.change, background, find?_making]
    by_cases newest : number = scopes.size
    · simp [newest, missing]
    · simp [newest]
  | child other =>
    simp only [Under, Scopes.change, child, find?_making]
    by_cases newest : number = scopes.size
    · simp [newest, missing, and_comm]
    · simp [newest]
  | cancel other =>
    simp only [Under, Scopes.change, find?_cancel]
    cases scopes.find? number with
    | none => simp
    | some scope => by_cases same : number = other <;> simp [same]

/-- Only a scope that is canceled is marked afterwards and was not before. -/
theorem marked_change (change : ScopeChange) (number : Nat) :
    (scopes.change change).Marked number ↔ scopes.Marked number ∨
      change = .cancel number ∧ number < scopes.size := by
  have missing : scopes.find? scopes.size = Option.none := find?_eq_none (Nat.le_refl _)
  cases change with
  | background | child =>
    simp only [Marked, Scopes.change, background, child, find?_making]
    by_cases newest : number = scopes.size
    · simp [newest, missing]
    · simp [newest]
  | cancel other =>
    simp only [Marked, Scopes.change, find?_cancel]
    by_cases there : number < scopes.size
    · obtain ⟨scope, found⟩ : ∃ scope, scopes.find? number = some scope :=
        ⟨_, List.getElem?_eq_getElem (by simpa [size] using there)⟩
      by_cases same : other = number
      · simp [found, same, there]
      · simp [found, same, Ne.symm same]
    · rw [find?_eq_none (Nat.le_of_not_lt there)]
      simp [there]

/-! ## What a history does to scopes -/

variable (history : ScopeHistory)

theorem changed_concat (change : ScopeChange) :
    scopes.changed (history ++ [change]) = (scopes.changed history).change change := by
  simp [changed]

theorem size_history : (none.changed history).size = history.made := by
  induction history using List.reverseRecOn with
  | nil => rfl
  | append_singleton history change ih =>
    rw [changed_concat, size_change, ih, ScopeHistory.made_concat]

theorem under_history (number parent : Nat) :
    (none.changed history).Under number parent ↔ history.MadeUnder number parent := by
  induction history using List.reverseRecOn with
  | nil => simp [Under, changed, none, find?, ScopeHistory.MadeUnder]
  | append_singleton history change ih =>
    rw [changed_concat, under_change, ih, size_history, ScopeHistory.madeUnder_concat]

theorem marked_history (number : Nat) :
    (none.changed history).Marked number ↔ history.Canceled number := by
  induction history using List.reverseRecOn with
  | nil => simp [Marked, changed, none, find?, ScopeHistory.Canceled]
  | append_singleton history change ih =>
    rw [changed_concat, marked_change, ih, size_history, ScopeHistory.canceled_concat]

theorem revoked_history (number : Nat) : (none.changed history).Revoked number ↔
    ∃ origin, history.Descends number origin ∧ history.Canceled origin := by
  have under : (none.changed history).Under = history.MadeUnder := by
    ext number parent
    exact under_history history number parent
  simp only [Revoked, under, marked_history, ScopeHistory.Descends]

/-- A scope that was canceled itself can be canceled again, and nothing changes. -/
theorem cancel_of_marked {number : Nat} (marked : scopes.Marked number) :
    scopes.cancel number = scopes := by
  obtain ⟨scopes⟩ := scopes
  obtain ⟨scope, found, canceled⟩ := marked
  refine congrArg Scopes.mk ?_
  induction scopes with
  | nil => rfl
  | cons newest older ih =>
    rw [find?_cons] at found
    rw [cancelAmong]
    by_cases here : number = older.length
    · rw [if_pos here] at found ⊢
      cases found
      rw [← canceled]
    · rw [if_neg here] at found ⊢
      rw [ih found]

end Scopes

namespace ScopeHistory

variable {history : ScopeHistory} {number other : Nat}

theorem Descends.le (descends : history.Descends number other) : other ≤ number := by
  induction descends with
  | refl => exact Nat.le_refl _
  | tail _ made ih =>
    obtain ⟨_, _, _, _, older⟩ := made
    omega

theorem MadeUnder.unique {parent another : Nat} (made : history.MadeUnder number parent)
    (again : history.MadeUnder number another) : parent = another := by
  rw [← Scopes.under_history] at made again
  obtain ⟨_, scope, found, parented⟩ := made
  obtain ⟨_, same, refound, reparented⟩ := again
  rw [found] at refound
  cases refound
  simpa [parented] using reparented

/-- A scope that stands above another one, or beside it, or in a tree that has nothing to do with
that of the other. -/
inductive Apart (history : ScopeHistory) (number : Nat) : Nat → Prop where
  | ancestor {above : Nat} (under : Relation.TransGen history.MadeUnder number above) :
    Apart history number above
  | sibling {parent beside : Nat} (own : history.MadeUnder number parent)
    (shared : history.MadeUnder beside parent) (distinct : beside ≠ number) :
    Apart history number beside
  | unrelated {foreign : Nat}
    (nothing : ¬∃ root, history.Descends number root ∧ history.Descends foreign root) :
    Apart history number foreign

theorem Apart.not_descends (apart : history.Apart number other) :
    ¬history.Descends other number := by
  intro descends
  cases apart with
  | ancestor under =>
    obtain ⟨parent, ⟨_, _, _, _, older⟩, above⟩ := Relation.TransGen.head'_iff.mp under
    have high : other ≤ parent := Descends.le above
    have low := descends.le
    omega
  | sibling own shared distinct =>
    rcases Relation.ReflTransGen.cases_head descends with same | ⟨parent, made, above⟩
    · exact distinct same
    · -- the parent that they share would descend from its own child
      have low : number ≤ parent := Descends.le above
      rw [made.unique shared] at low
      obtain ⟨_, _, _, _, older⟩ := own
      omega
  | unrelated nothing => exact nothing ⟨number, .refl, descends⟩

end ScopeHistory

/-- Canceling a scope cancels what descends from it, and nothing else. -/
theorem Scopes.isCanceled_cancel (history : ScopeHistory) (number other : Nat) :
    ((none.changed history).cancel number).isCanceled other = true ↔
      (none.changed history).isCanceled other = true ∨
        number < history.made ∧ history.Descends other number := by
  have made : ScopeHistory.MadeUnder (history ++ [.cancel number]) = history.MadeUnder := by
    ext child parent
    simp [ScopeHistory.madeUnder_concat]
  have whole : (none.changed history).cancel number =
      none.changed (history ++ [.cancel number]) := (changed_concat none history (.cancel number)).symm
  rw [whole, isCanceled_iff, isCanceled_iff, revoked_history, revoked_history]
  simp only [ScopeHistory.Descends, made, ScopeHistory.canceled_concat, ScopeChange.cancel.injEq]
  constructor
  · rintro ⟨origin, above, canceled | ⟨rfl, there⟩⟩
    · exact .inl ⟨origin, above, canceled⟩
    · exact .inr ⟨there, above⟩
  · rintro (⟨origin, above, canceled⟩ | ⟨there, above⟩)
    · exact ⟨origin, above, .inl canceled⟩
    · exact ⟨number, above, .inr ⟨rfl, there⟩⟩

/-- Whatever was done with scopes, and in whatever order, a scope counts as canceled exactly if it
was canceled itself, or one was that it descends from. So a scope is made as canceled as the one it
is made under; canceling one cancels what descends from it, but nothing above it, beside it or in
other trees; what is canceled stays so; and canceling a scope again changes nothing. -/
theorem Scopes.isCanceled_history (history : ScopeHistory) :
    let scopes := none.changed history
    (∀ number, scopes.isCanceled number = true ↔
      ∃ origin, history.Descends number origin ∧ history.Canceled origin) ∧
    (∀ parent, (scopes.child parent).isCanceled scopes.size = scopes.isCanceled parent) ∧
    (∀ number other, (scopes.cancel number).isCanceled other = true ↔
      scopes.isCanceled other = true ∨ number < history.made ∧ history.Descends other number) ∧
    (∀ number other, history.Apart number other →
      (scopes.cancel number).isCanceled other = scopes.isCanceled other) ∧
    (∀ number later, scopes.isCanceled number = true →
      (scopes.changed later).isCanceled number = true) ∧
    (∀ number, history.Canceled number → scopes.cancel number = scopes) := by
  intro scopes
  refine ⟨?_, ?_, isCanceled_cancel history, ?_, ?_, ?_⟩
  · intro number
    rw [isCanceled_iff, revoked_history]
  · intro parent
    simp [isCanceled, child, isCanceledAmong, size]
  · intro number other apart
    rw [Bool.eq_iff_iff, isCanceled_cancel]
    simp [apart.not_descends, scopes]
  · intro number later canceled
    rw [isCanceled_iff] at canceled ⊢
    exact canceled.changed later
  · intro number canceled
    exact scopes.cancel_of_marked ((marked_history history number).mpr canceled)

/-- Canceling a root cancels the scopes in its tree, and not the root of another one. -/
example : (Scopes.none.changed [.background, .child 0, .background, .child 1, .cancel 0]).canceledFlags
    = [true, true, false, true] := by decide

end LineScript
