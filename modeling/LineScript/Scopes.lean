/-!
# Cancellation scopes
Scopes are numbered in the order in which they are made. A scope is made from nothing or under an
older one, and canceling a scope cancels everything made under it.
-/
namespace LineScript

/-- A scope: the one it was made under, and whether it was canceled itself. -/
structure Scope where
  parent : Option Nat
  canceled : Bool
  deriving DecidableEq, Repr

/-- The scopes made so far, the newest first: a scope's number is how many are older. -/
structure Scopes where
  newestFirst : List Scope
  deriving DecidableEq, Repr

/-- The scope with a number was canceled, or one above it was. -/
def isCanceledAmong : List Scope → Nat → Bool
  | [], _ => false
  | scope :: older, number =>
    if number = older.length then
      scope.canceled || match scope.parent with
        | some parent => isCanceledAmong older parent
        | none => false
    else isCanceledAmong older number

/-- Marks the scope with a number as canceled. -/
def cancelAmong : List Scope → Nat → List Scope
  | [], _ => []
  | scope :: older, number =>
    if number = older.length then { scope with canceled := true } :: older
    else scope :: cancelAmong older number

namespace Scopes

def none : Scopes := ⟨[]⟩

def size (scopes : Scopes) : Nat := scopes.newestFirst.length

/-- Makes a scope from nothing. -/
def background (scopes : Scopes) : Scopes := ⟨⟨Option.none, false⟩ :: scopes.newestFirst⟩

/-- Makes a scope under another one. -/
def child (scopes : Scopes) (parent : Nat) : Scopes :=
  ⟨⟨some parent, false⟩ :: scopes.newestFirst⟩

def cancel (scopes : Scopes) (number : Nat) : Scopes := ⟨cancelAmong scopes.newestFirst number⟩

/-- The scope or one above it was canceled. -/
def isCanceled (scopes : Scopes) (number : Nat) : Bool :=
  isCanceledAmong scopes.newestFirst number

/-- For every scope, in the order of their numbers, whether it is canceled. -/
def canceledFlags (scopes : Scopes) : List Bool :=
  (List.range scopes.size).map scopes.isCanceled

end Scopes

end LineScript
