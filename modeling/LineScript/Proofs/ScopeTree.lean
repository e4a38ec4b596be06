import LineScript.Scopes
import Mathlib.Logic.Relation

/-!
# Trees of scopes
Every scope stands under the one that it was made under, so scopes form trees. A scope counts as
canceled exactly if it was canceled itself or one above it was (`isCanceled_iff`), and it stays so
whatever is done with scopes afterwards (`Revoked.changed`).
-/
namespace LineScript

/-- What is done with scopes: one is made from nothing or under another one, or one is canceled. -/
inductive ScopeChange where
  | background
  | child (parent : Nat)
  | cancel (number : Nat)

namespace Scopes

def change (scopes : Scopes) : ScopeChange → Scopes
  | .background => scopes.background
  | .child parent => scopes.child parent
  | .cancel number => scopes.cancel number

def changed (scopes : Scopes) (changes : List ScopeChange) : Scopes := changes.foldl change scopes

def find? (scopes : Scopes) (number : Nat) : Option Scope := scopes.newestFirst.reverse[number]?

/-- A scope was made under another one. -/
def Under (scopes : Scopes) (number parent : Nat) : Prop :=
  parent < number ∧ ∃ scope, scopes.find? number = some scope ∧ scope.parent = some parent

/-- A scope was canceled itself. -/
def Marked (scopes : Scopes) (number : Nat) : Prop :=
  ∃ scope, scopes.find? number = some scope ∧ scope.canceled = true

/-- A scope was canceled, or one was that it stands under. -/
def Revoked (scopes : Scopes) (number : Nat) : Prop :=
  ∃ origin, Relation.ReflTransGen scopes.Under number origin ∧ scopes.Marked origin

/-! ## Finding scopes -/

theorem find?_cons (newest : Scope) (older : List Scope) (number : Nat) :
    find? ⟨newest :: older⟩ number =
      if number = older.length then some newest else find? ⟨older⟩ number := by
  simp only [find?, List.reverse_cons, List.getElem?_append, List.length_reverse]
  by_cases newer : number < older.length
  · rw [if_pos newer, if_neg (by omega)]
  · rw [if_neg newer]
    by_cases same : number = older.length
    · simp [same]
    · have beyond : older.reverse[number]? = Option.none := by simp; omega
      rw [if_neg same, beyond, List.getElem?_eq_none (by simp; omega)]

theorem find?_eq_none {scopes : Scopes} {number : Nat} (beyond : scopes.size ≤ number) :
    scopes.find? number = Option.none := by
  simpa [find?, size] using beyond

theorem find?_made {older : List Scope} {number : Nat} {scope : Scope} (newest : Scope)
    (found : find? ⟨older⟩ number = some scope) : find? ⟨newest :: older⟩ number = some scope := by
  have old : number ≠ older.length := by
    rintro rfl
    have missing : find? ⟨older⟩ older.length = Option.none := find?_eq_none (Nat.le_refl _)
    simp [missing] at found
  rw [find?_cons, if_neg old, found]

private theorem length_cancelAmong (scopes : List Scope) (number : Nat) :
    (cancelAmong scopes number).length = scopes.length := by
  induction scopes with
  | nil => rfl
  | cons newest older ih =>
    rw [cancelAmong]
    split
    · rfl
    · simp [ih]

@[simp] theorem size_cancel (scopes : Scopes) (number : Nat) :
    (scopes.cancel number).size = scopes.size := length_cancelAmong scopes.newestFirst number

theorem find?_cancel (scopes : Scopes) (number other : Nat) : (scopes.cancel number).find? other =
    (scopes.find? other).map fun scope =>
      if other = number then { scope with canceled := true } else scope := by
  obtain ⟨scopes⟩ := scopes
  induction scopes with
  | nil => simp [find?, cancel, cancelAmong]
  | cons newest older ih =>
    simp only [cancel, cancelAmong] at ih ⊢
    by_cases here : number = older.length
    · rw [if_pos here, find?_cons, find?_cons]
      by_cases same : other = older.length
      · simp [same, here]
      · cases find? ⟨older⟩ other <;> simp [same, here]
    · rw [if_neg here, find?_cons, find?_cons, length_cancelAmong]
      by_cases same : other = older.length
      · simp [same, Ne.symm here]
      · simp only [if_neg same, ih]

/-! ## Canceled scopes -/

private theorem isCanceledAmong_beyond (scopes : List Scope) {number : Nat}
    (beyond : scopes.length ≤ number) : isCanceledAmong scopes number = false := by
  induction scopes with
  | nil => rfl
  | cons newest older ih =>
    rw [List.length_cons] at beyond
    rw [isCanceledAmong, if_neg (by omega), ih (by omega)]

private theorem isCanceledAmong_older (newest : Scope) {older : List Scope} {number : Nat}
    (old : number < older.length) :
    isCanceledAmong (newest :: older) number = isCanceledAmong older number := by
  rw [isCanceledAmong, if_neg (by omega)]

/-- A scope that is made under a number above its own is made under nothing. -/
private theorem isCanceledAmong_iff (newest : Scope) (older : List Scope) (parent : Nat) :
    isCanceledAmong older parent = true ↔
      parent < older.length ∧ isCanceledAmong (newest :: older) parent = true := by
  by_cases old : parent < older.length
  · rw [isCanceledAmong_older newest old]
    simp [old]
  · rw [isCanceledAmong_beyond older (Nat.le_of_not_lt old)]
    simp [old]

/-- A scope is canceled if it is marked, or if the one it was made under is canceled. -/
theorem isCanceled_step (scopes : Scopes) (number : Nat) :
    scopes.isCanceled number = true ↔ scopes.Marked number ∨
      ∃ parent, scopes.Under number parent ∧ scopes.isCanceled parent = true := by
  obtain ⟨scopes⟩ := scopes
  induction scopes with
  | nil => simp [isCanceled, isCanceledAmong, Marked, Under, find?]
  | cons newest older ih =>
    simp only [isCanceled, Marked, Under, find?_cons] at ih ⊢
    by_cases same : number = older.length
    · rw [isCanceledAmong, if_pos same, if_pos same, same]
      cases made : newest.parent with
      | none => simp [made]
      | some parent =>
        simp only [Bool.or_eq_true, isCanceledAmong_iff newest older parent]
        simp [made, and_assoc, and_left_comm]
    · rw [isCanceledAmong, if_neg same, if_neg same, ih]
      by_cases old : number < older.length
      · have above (parent : Nat) (under : parent < number) :
            isCanceledAmong (newest :: older) parent = isCanceledAmong older parent :=
          isCanceledAmong_older newest (by omega)
        constructor
        · rintro (marked | ⟨parent, under, canceled⟩)
          · exact .inl marked
          · exact .inr ⟨parent, under, by rwa [above parent under.1]⟩
        · rintro (marked | ⟨parent, under, canceled⟩)
          · exact .inl marked
          · exact .inr ⟨parent, under, by rwa [above parent under.1] at canceled⟩
      · have missing : find? ⟨older⟩ number = Option.none := find?_eq_none (by simp [size]; omega)
        simp [missing]

/-- A scope is canceled exactly if it was canceled itself, or one was that it stands under. -/
theorem isCanceled_iff (scopes : Scopes) (number : Nat) :
    scopes.isCanceled number = true ↔ scopes.Revoked number := by
  -- parents have smaller numbers than what is made under them
  induction number using Nat.strongRecOn with
  | ind number ih =>
    rw [isCanceled_step]
    constructor
    · rintro (marked | ⟨parent, under, canceled⟩)
      · exact ⟨number, .refl, marked⟩
      · obtain ⟨origin, above, marked⟩ := (ih parent under.1).mp canceled
        exact ⟨origin, .head under above, marked⟩
    · rintro ⟨origin, above, marked⟩
      rcases above.cases_head with rfl | ⟨parent, under, rest⟩
      · exact .inl marked
      · exact .inr ⟨parent, under, (ih parent under.1).mpr ⟨origin, rest, marked⟩⟩

/-! ## Changes -/

/-- No change takes a scope from under another one, or a mark from a scope. -/
theorem find?_change {scopes : Scopes} {number : Nat} {scope : Scope}
    (found : scopes.find? number = some scope) (change : ScopeChange) :
    ∃ after, (scopes.change change).find? number = some after ∧ after.parent = scope.parent ∧
      (scope.canceled = true → after.canceled = true) := by
  cases change with
  | background => exact ⟨scope, find?_made _ found, rfl, id⟩
  | child parent => exact ⟨scope, find?_made _ found, rfl, id⟩
  | cancel other =>
    simp only [Scopes.change, find?_cancel, found, Option.map_some]
    by_cases same : number = other
    · exact ⟨_, rfl, by simp [same], by simp [same]⟩
    · exact ⟨_, rfl, by simp [same], by simp [same]⟩

theorem Revoked.change {scopes : Scopes} {number : Nat} (revoked : scopes.Revoked number)
    (change : ScopeChange) : (scopes.change change).Revoked number := by
  obtain ⟨origin, above, marked⟩ := revoked
  have under (child parent : Nat) (made : scopes.Under child parent) :
      (scopes.change change).Under child parent := by
    obtain ⟨older, scope, found, parented⟩ := made
    obtain ⟨after, still, same, _⟩ := find?_change found change
    exact ⟨older, after, still, same.trans parented⟩
  obtain ⟨scope, found, canceled⟩ := marked
  obtain ⟨after, still, _, kept⟩ := find?_change found change
  exact ⟨origin, above.lift id under, after, still, kept canceled⟩

theorem Revoked.changed {scopes : Scopes} {number : Nat} (revoked : scopes.Revoked number)
    (changes : List ScopeChange) : (scopes.changed changes).Revoked number := by
  induction changes generalizing scopes with
  | nil => exact revoked
  | cons change rest ih => exact ih (revoked.change change)

end Scopes

end LineScript
