import LineScript.Pattern.Matching
import LineScript.Pattern.TreeReading

/-!
# Patterns
A pattern is compiled once and then counted in texts.
-/
namespace LineScript

/-- A compiled pattern: its tree and the number of its groups, the whole pattern included. -/
structure Pattern where
  node : Pattern.Node
  groups : Nat

namespace Pattern

/-- Compiles a pattern, in which characters can be named. -/
def compile (character : String → Option Nat) (pattern : String) : Except Problem Pattern :=
  (readTree character pattern.toList).map fun (node, groups) => ⟨node, groups⟩

/-- The number of matches in a text that do not overlap. -/
def count (pattern : Pattern) (text : String) : Nat :=
  let chars := text.toList.toArray
  countFrom chars pattern.node pattern.groups false 0 (2 * chars.size + 2)

end Pattern

end LineScript
