import LineScript.Pattern.Node

/-!
# Matching
A node is matched from a place in a text and hands every way to match to what follows, in the
order of preference, until what follows succeeds. A repetition that has matched often enough goes
on only from a place other than the one where its last such repetition began.
-/
namespace LineScript.Pattern

/-- A place in a text, with the start and end marks of the groups. -/
structure Cursor where
  index : Nat
  marks : Array (Option Nat)

def Cursor.mark (c : Cursor) (number : Nat) : Cursor :=
  { c with marks := c.marks.setIfInBounds number (some c.index) }

/-- Where a group's last capture begins and ends. -/
def Cursor.capture? (c : Cursor) (group : Nat) : Option (Nat × Nat) := do
  let first ← c.marks.getD (2 * group) none
  let stop ← c.marks.getD (2 * group + 1) none
  if first ≤ stop then some (first, stop) else none

/-- A way to go on from a place. -/
abbrev Continue := Cursor → Option Cursor

/-- A way to match: what follows is tried for each match in turn. -/
abbrev Matcher := Continue → Continue

/-- Fewer repetitions are done than may be. -/
def mayRepeat (max : Option Nat) (count : Nat) : Bool := max.all (count < ·)

/-- As many repetitions as possible first. -/
def matchGreedy (item : Matcher) (min : Nat) (max : Option Nat) (next : Continue) :
    Nat → Nat → Option Nat → Continue
  | 0, _, _, _ => none
  | fuel + 1, count, last, c =>
    if count < min then item (matchGreedy item min max next fuel (count + 1) last) c
    else if mayRepeat max count && last != some c.index then
      match item (matchGreedy item min max next fuel (count + 1) (some c.index)) c with
      | some done => some done
      | none => next c
    else next c

/-- As few repetitions as possible first. -/
def matchLazy (item : Matcher) (min : Nat) (max : Option Nat) (next : Continue) :
    Nat → Nat → Option Nat → Continue
  | 0, _, _, _ => none
  | fuel + 1, count, last, c =>
    if count < min then item (matchLazy item min max next fuel (count + 1) last) c
    else match next c with
      | some done => some done
      | none =>
        if mayRepeat max count && last != some c.index then
          item (matchLazy item min max next fuel (count + 1) (some c.index)) c
        else none

/-- Repetitions that are each matched once and for all, as many as there are. -/
def matchPossessive (item : Matcher) (min : Nat) (max : Option Nat) :
    Nat → Nat → Option Nat → Continue
  | 0, _, _, _ => none
  | fuel + 1, count, last, c =>
    if count < min then (item some c).bind (matchPossessive item min max fuel (count + 1) last)
    else if mayRepeat max count && last != some c.index then
      match item some c with
      | some after => matchPossessive item min max fuel (count + 1) (some c.index) after
      | none => some c
    else some c

/-- A word character stands at an index. -/
def isWordAt (text : Array Char) (ascii : Bool) (index : Nat) : Bool :=
  text[index]?.any (CharClass.word.contains ascii)

def isWordBefore (text : Array Char) (ascii : Bool) (index : Nat) : Bool :=
  index != 0 && isWordAt text ascii (index - 1)

/-- The anchor matches at an index. In an empty text there is no edge of a word, and no place
that is not one. -/
def Anchor.holds (text : Array Char) (index : Nat) : Anchor → Bool
  | .textStart => index == 0
  | .textEnd => index == text.size
  | .lineStart => index == 0 || text[index - 1]? == some '\n'
  | .lineEnd => index == text.size || text[index]? == some '\n'
  | .lastLineEnd =>
    index == text.size || (index + 1 == text.size && text[index]? == some '\n')
  | .wordEdge negated ascii =>
    !text.isEmpty && (isWordAt text ascii index != isWordBefore text ascii index) != negated

/-- The same characters stand at two places, compared as the fold says. -/
def sameCharacters (text : Array Char) (fold : Fold) (i j : Nat) : Nat → Bool
  | 0 => true
  | count + 1 =>
    match text[i]?, text[j]? with
    | some a, some b =>
      fold.lower a == fold.lower b && sameCharacters text fold (i + 1) (j + 1) count
    | _, _ => false

def Node.run (text : Array Char) : Node → Matcher
  | .empty, next, c => next c
  | .char test, next, c =>
    match text[c.index]? with
    | some x => if test.holds x then next { c with index := c.index + 1 } else none
    | none => none
  | .anchor place, next, c => if place.holds text c.index then next c else none
  | .seq first second, next, c => first.run text (second.run text next) c
  | .alt first second, next, c =>
    match first.run text next c with
    | some done => some done
    | none => second.run text next c
  | .repeated eagerness min max item, next, c =>
    let fuel := min + (text.size - c.index) + 2
    match eagerness with
    | .greedy => matchGreedy (item.run text) min max next fuel 0 none c
    | .lazy => matchLazy (item.run text) min max next fuel 0 none c
    | .possessive => (matchPossessive (item.run text) min max fuel 0 none c).bind next
  | .group none inner, next, c => inner.run text next c
  | .group (some number) inner, next, c =>
    inner.run text (fun c => next (c.mark (2 * number + 1))) (c.mark (2 * number))
  | .atomic inner, next, c => (inner.run text some c).bind next
  | .ahead negated inner, next, c =>
    match inner.run text some c with
    | some after => if negated then none else next { after with index := c.index }
    | none => if negated then next c else none
  | .behind negated inner, next, c =>
    let width := inner.width.least
    if c.index < width then if negated then next c else none
    else
      match inner.run text some { c with index := c.index - width } with
      | some after => if negated then none else next { after with index := c.index }
      | none => if negated then next c else none
  | .reference number fold _, next, c =>
    match c.capture? number with
    | some (first, stop) =>
      let length := stop - first
      if sameCharacters text fold first c.index length then
        next { c with index := c.index + length }
      else none
    | none => none
  | .conditional number yes no, next, c =>
    if (c.capture? number).isSome then yes.run text next c else no.run text next c

/-- The first match that begins at or after an index, as its start and end; one that begins right
there must not be empty if `advance` holds. -/
def search (text : Array Char) (node : Node) (groups : Nat) (advance : Bool) (index : Nat) :
    Nat → Option (Nat × Nat)
  | 0 => none
  | fuel + 1 =>
    let finish (c : Cursor) : Option Cursor :=
      if advance && c.index == index then none else some c
    match node.run text finish ⟨index, .replicate (2 * groups) none⟩ with
    | some c => some (index, c.index)
    | none =>
      if text.size ≤ index then none else search text node groups false (index + 1) fuel

/-- The number of matches that do not overlap. After an empty match the next one must not be
empty at the same place. -/
def countFrom (text : Array Char) (node : Node) (groups : Nat) (advance : Bool) (index : Nat) :
    Nat → Nat
  | 0 => 0
  | fuel + 1 =>
    match search text node groups advance index (text.size - index + 1) with
    | some (first, stop) => countFrom text node groups (first == stop) stop fuel + 1
    | none => 0

end LineScript.Pattern
