import LineScript.Pattern.CharTest
import LineScript.Pattern.Defect

/-!
# Patterns as trees
The tree of a pattern, how many characters it can match, and the defects that only the whole tree
shows.
-/
namespace LineScript.Pattern

/-- Places that an anchor matches. -/
inductive Anchor where
  | textStart
  | textEnd
  | lineStart
  | lineEnd
  /-- The end of the text, or the place before a line feed that ends it. -/
  | lastLineEnd
  | wordEdge (negated ascii : Bool)
  deriving DecidableEq, Repr

/-- How a repetition chooses how often it matches: as often as possible, as rarely as possible,
or as often as possible for good. -/
inductive Eagerness where
  | greedy
  | lazy
  | possessive
  deriving DecidableEq, Repr

/-- How many characters can be matched, at least and at most. -/
structure Width where
  least : Nat
  most : Nat
  deriving DecidableEq, Repr

/-- Widths from here on are not told apart. -/
def maxWidth : Nat := 0x10000000000000000

def Width.zero : Width := ⟨0, 0⟩

def Width.add (a b : Width) : Width := ⟨a.least + b.least, a.most + b.most⟩

def Width.join (a b : Width) : Width := ⟨min a.least b.least, max a.most b.most⟩

/-- The width of a repetition. -/
def Width.times (w : Width) (min : Nat) (max : Option Nat) : Width where
  least := w.least * min
  most := match max with
    | some max => w.most * max
    | none => if w.most = 0 then 0 else maxWidth

/-- The width with its bounds cut to the largest. -/
def Width.cut (w : Width) : Width := ⟨min w.least maxWidth, min w.most maxWidth⟩

/-- The tree of a pattern. -/
inductive Node where
  | empty
  | char (test : CharTest)
  | anchor (anchor : Anchor)
  | seq (first second : Node)
  | alt (first second : Node)
  | repeated (eagerness : Eagerness) (min : Nat) (max : Option Nat) (item : Node)
  /-- A group; one that captures has a number. -/
  | group (number : Option Nat) (inner : Node)
  /-- A group that is matched once and for all. -/
  | atomic (inner : Node)
  /-- A condition on what follows. -/
  | ahead (negated : Bool) (inner : Node)
  /-- A condition on what stands before. -/
  | behind (negated : Bool) (inner : Node)
  /-- What a group captured, with the width of that group. -/
  | reference (group : Nat) (fold : Fold) (width : Width)
  /-- A choice by whether a group has captured something. -/
  | conditional (group : Nat) (yes no : Node)

namespace Node

def width : Node → Width
  | .empty => .zero
  | .char _ => ⟨1, 1⟩
  | .anchor _ => .zero
  | .seq first second => (first.width.add second.width).cut
  | .alt first second => (first.width.join second.width).cut
  | .repeated _ min max item => (item.width.times min max).cut
  | .group _ inner => inner.width
  | .atomic inner => inner.width
  | .ahead _ _ => .zero
  | .behind _ _ => .zero
  | .reference _ _ width => width
  | .conditional _ yes no => (yes.width.join no.width).cut

def ofList (nodes : List Node) : Node :=
  match nodes with
  | [] => .empty
  | [node] => node
  | node :: rest => .seq node (ofList rest)

/-- The node is an anchor, which cannot be repeated. -/
def isAnchor : Node → Bool
  | .anchor _ => true
  | _ => false

/-- The node is a repetition, which cannot be repeated directly. -/
def isRepeated : Node → Bool
  | .repeated _ _ _ _ => true
  | _ => false

end Node

/-- The widest look behind. -/
def maxBehind : Nat := 0xffffffff

/-- How a repetition is called where templates forbid it. -/
def Eagerness.operator : Eagerness → String
  | .greedy => "MAX_REPEAT"
  | .lazy => "MIN_REPEAT"
  | .possessive => "POSSESSIVE_REPEAT"

/-- The first flaw in a finished tree: repetitions in a template, and conditions on what stands
before that do not have one width. -/
def Node.flaw? (template : Bool) : Node → Option Flaw
  | .seq first second => (first.flaw? template).or (second.flaw? template)
  | .alt first second => (first.flaw? template).or (second.flaw? template)
  | .repeated eagerness _ _ item =>
    if template then some (.templateRepeat eagerness.operator) else item.flaw? template
  | .group _ inner => inner.flaw? template
  | .atomic inner => inner.flaw? template
  | .ahead _ inner => inner.flaw? template
  | .behind _ inner =>
    if maxBehind < inner.width.least then some .looksTooFarBehind
    else if inner.width.least ≠ inner.width.most then some .variableLookbehind
    else inner.flaw? template
  | .conditional _ yes no => (yes.flaw? template).or (no.flaw? template)
  | _ => none

end LineScript.Pattern
