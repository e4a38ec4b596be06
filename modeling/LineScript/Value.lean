import LineScript.Calendar
import LineScript.Fault
import LineScript.Numeral.Integer
import LineScript.Numeral.Shortest
import LineScript.Text.Quoted

/-!
# Values
The values that a document can hold: scalars, lists, and maps whose keys are scalars, sets of
scalars and pairs of values. A list or map may hold itself; where it is met again inside of itself,
only that is said.
-/
namespace LineScript

/-- A single value. -/
inductive Scalar where
  | null
  | bool (value : Bool)
  | integer (value : Int)
  | float (value : Numeral.Binary64)
  | text (value : String)
  | date (value : Calendar.Date)
  | moment (value : Calendar.Moment)
  | bytes (value : List UInt8)
  deriving DecidableEq, Repr

/-- A value. -/
inductive Value where
  | scalar (value : Scalar)
  | list (items : List Value)
  | map (entries : List (Scalar × Value))
  | set (members : List Scalar)
  | pair (first second : Value)
  /-- The list or map that this value stands in, met again. -/
  | again (isMap : Bool)

instance : Inhabited Value := ⟨.scalar .null⟩

namespace Scalar

def shown : Scalar → String
  | .null => "None"
  | .bool true => "True"
  | .bool false => "False"
  | .integer value => toString value
  | .float value => value.text
  | .text value => Text.quoted value
  | .date value => value.shown
  | .moment value => value.shown
  | .bytes value => Text.quotedBytes value

/-- The scalar can be put into digits: an integer is not longer than what is read. -/
def isShowable : Scalar → Bool
  | .integer value => decide (value.natAbs < Numeral.tenTo Numeral.maxDigits)
  | _ => true

/-- A scalar as it is written in a sentence: texts without quotes, dates in digits. -/
def words : Scalar → String
  | .text value => value
  | .date value => value.text
  | .moment value => value.text
  | scalar => scalar.shown

def kindName : Scalar → String
  | .null => "NoneType"
  | .bool _ => "bool"
  | .integer _ => "int"
  | .float _ => "float"
  | .text _ => "str"
  | .date _ => "datetime.date"
  | .moment _ => "datetime.datetime"
  | .bytes _ => "bytes"

/-- A number as a ratio, truth values being numbers, too. -/
def ratio? : Scalar → Option (Int × Nat)
  | .bool value => some (if value then 1 else 0, 1)
  | .integer value => some (value, 1)
  | .float value => value.ratio?
  | _ => none

/-- Two scalars count as the same key: numbers by their value, moments by their instant, all else
by kind and value. -/
def isSame (a b : Scalar) : Bool :=
  match a, b with
  | .moment a, .moment b => a.isLike b && a.instant == b.instant
  | a, b => match a.ratio?, b.ratio? with
    | some (m, d), some (n, e) => m * e == n * d
    | _, _ => a == b

/-- The place of a number in the order of numbers: which infinity it is, if it is one, and its
ratio. What is no number in spite of its kind is neither before nor after another one. -/
def place? (scalar : Scalar) : Option (Int × Int × Nat) :=
  match scalar.ratio?, scalar with
  | some (m, d), _ => some (0, m, d)
  | none, .float value =>
    some (value.infinite?.elim (0, 0, 0) fun isNegative => (if isNegative then -1 else 1, 0, 1))
  | none, _ => none

/-- One scalar comes before another one, if the two can be compared. -/
def isBefore? (a b : Scalar) : Option Bool :=
  match a, b with
  | .text a, .text b => some (decide (a < b))
  | .date a, .date b => some (decide (a.parts < b.parts))
  | .moment a, .moment b => if a.isLike b then some (decide (a.instant < b.instant)) else none
  | .bytes a, .bytes b => some (decide (a.map UInt8.toNat < b.map UInt8.toNat))
  | a, b => match a.place?, b.place? with
    | some (i, m, d), some (j, n, e) => some (decide (i < j ∨ i = j ∧ m * e < n * d))
    | _, _ => none

/-- What is wrong with comparing two scalars that cannot be compared. -/
def mismatch : Scalar → Scalar → KindFault
  | .moment _, .moment _ => .zones
  | .date _, .moment _ => .dateAndMoment
  | .moment _, .date _ => .dateAndMoment
  | a, b => .incomparable a.kindName b.kindName

end Scalar

namespace Value

mutual

def shown : Value → String
  | .scalar value => value.shown
  | .list items => "[" ++ ", ".intercalate (shownItems items) ++ "]"
  | .map entries => "\x7b" ++ ", ".intercalate (shownEntries entries) ++ "\x7d"
  | .set [] => "set()"
  | .set members => "\x7b" ++ ", ".intercalate (members.map Scalar.shown) ++ "\x7d"
  | .pair first second => "(" ++ first.shown ++ ", " ++ second.shown ++ ")"
  | .again false => "[...]"
  | .again true => "\x7b...\x7d"

def shownItems : List Value → List String
  | [] => []
  | item :: rest => item.shown :: shownItems rest

def shownEntries : List (Scalar × Value) → List String
  | [] => []
  | (key, value) :: rest => (key.shown ++ ": " ++ value.shown) :: shownEntries rest

end

mutual

/-- All integers in a value can be put into digits. -/
def isShowable : Value → Bool
  | .scalar value => value.isShowable
  | .list items => areShowable items
  | .map entries => entriesShowable entries
  | .set members => members.all Scalar.isShowable
  | .pair first second => first.isShowable && second.isShowable
  | .again _ => true

/-- All integers in the items of a list can be put into digits. -/
def areShowable : List Value → Bool
  | [] => true
  | item :: rest => item.isShowable && areShowable rest

/-- All integers in the entries of a map can be put into digits. -/
def entriesShowable : List (Scalar × Value) → Bool
  | [] => true
  | (key, value) :: rest => key.isShowable && value.isShowable && entriesShowable rest

end

/-- The kind of what is in the way of looking a value up: lists, maps and sets cannot be looked
up. -/
def unhashable? : Value → Option String
  | .scalar _ => none
  | .list _ => some "list"
  | .map _ => some "dict"
  | .set _ => some "set"
  | .pair first second => first.unhashable? <|> second.unhashable?
  | .again isMap => some (if isMap then "dict" else "list")

/-- The entries of a map with one more: an old entry for the key keeps its place and its key. -/
def putEntry (key : Scalar) (value : Value) : List (Scalar × Value) → List (Scalar × Value)
  | [] => [(key, value)]
  | entry :: rest =>
    if entry.1.isSame key then (entry.1, value) :: rest else entry :: putEntry key value rest

end Value

end LineScript
