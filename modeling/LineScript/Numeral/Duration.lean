import LineScript.Text.Blank
import LineScript.Text.Digit
import LineScript.Numeral.Integer
import LineScript.Numeral.Binary64

/-!
# Durations
A decimal number without sign, its digits of any script, and a unit: milliseconds, seconds,
minutes or hours. A number without a unit counts seconds.
-/
namespace LineScript.Numeral

inductive TimeUnit where
  | milliseconds
  | seconds
  | minutes
  | hours
  deriving DecidableEq, Repr

/-- The unit that stands after a number. -/
def TimeUnit.read? : List Char → Option TimeUnit
  | [] => some .seconds
  | ['m', 's'] => some .milliseconds
  | ['s'] => some .seconds
  | ['m'] => some .minutes
  | ['h'] => some .hours
  | _ => none

/-- A unit as a ratio of seconds. -/
def TimeUnit.ratio : TimeUnit → Nat × Nat
  | .milliseconds => (1, 1000)
  | .seconds => (1, 1)
  | .minutes => (60, 1)
  | .hours => (3600, 1)

/-- A duration as it is written: the digits before and after the point, and the unit. -/
structure Duration where
  whole : List Nat
  fraction : List Nat
  unit : TimeUnit
  deriving DecidableEq, Repr

def spanDigits : List Char → List Nat × List Char
  | [] => ([], [])
  | c :: rest => match Text.digitValue? c with
    | some digit => let (digits, after) := spanDigits rest; (digit :: digits, after)
    | none => ([], c :: rest)

/-- The fraction and unit that stand after the digits of a number. -/
def readFraction? (whole : List Nat) (rest : List Char) : Option Duration :=
  match rest with
  | '.' :: rest =>
    let (fraction, after) := spanDigits rest
    if fraction.isEmpty then none else (TimeUnit.read? after).map (⟨whole, fraction, ·⟩)
  | _ => (TimeUnit.read? rest).map (⟨whole, [], ·⟩)

/-- The duration that a text writes, if it writes one; blanks around it are ignored. -/
def Duration.read? (text : String) : Option Duration :=
  let (whole, rest) := spanDigits (Text.stripChars text.toList)
  if whole.isEmpty then none else readFraction? whole rest

/-- The number of units as a ratio. -/
def Duration.count (d : Duration) : Nat × Nat :=
  (ofDigits (d.whole ++ d.fraction), tenTo d.fraction.length)

/-- The duration in seconds as a ratio, not rounded. -/
def Duration.seconds (d : Duration) : Nat × Nat :=
  (d.count.1 * d.unit.ratio.1, d.count.2 * d.unit.ratio.2)

/-- The seconds as a double: the number and the unit are rounded first, then their product. -/
def Duration.bits (d : Duration) : Nat :=
  mulBits (nearestBits d.count.1 d.count.2) (nearestBits d.unit.ratio.1 d.unit.ratio.2)

end LineScript.Numeral
