/-!
# Double precision numbers
A double is written by its 64 bits. A ratio is rounded to the nearest double, an exact half to the
even neighbour, and what lies beyond the largest double becomes infinite.
-/
namespace LineScript.Numeral

def twoTo (exponent : Nat) : Nat := Nat.pow 2 exponent

def tenTo (exponent : Nat) : Nat := Nat.pow 10 exponent

/-- The quotient rounded to the nearest integer, an exact half to the even one. -/
def roundDiv (num den : Nat) : Nat :=
  let quotient := num / den
  let rest := num % den
  if 2 * rest < den then quotient
  else if den < 2 * rest then quotient + 1
  else quotient + quotient % 2

/-- A ratio of natural numbers times a power of two, again as a ratio. -/
def scaleRatio (num den : Nat) (exponent : Int) : Nat × Nat :=
  if exponent < 0 then (num, den * twoTo (-exponent).toNat) else (num * twoTo exponent.toNat, den)

/-- The greatest `e` with `2 ^ e ≤ num / den`. -/
def floorLog2 (num den : Nat) : Int :=
  let guess : Int := (Nat.log2 num : Int) - Nat.log2 den
  let (a, b) := scaleRatio num den (-guess)
  if b ≤ a then guess else guess - 1

def infinityBits : Nat := 0x7ff0000000000000

/-- The bits of the double nearest to a ratio. -/
def nearestBits (num den : Nat) : Nat :=
  if num = 0 ∨ den = 0 then 0
  else
    let exponent := max (floorLog2 num den - 52) (-1074)
    let (a, b) := scaleRatio num den (-exponent)
    min (roundDiv a b + (exponent + 1074).toNat * twoTo 52) infinityBits

/-- The double as `mantissa * 2 ^ exponent`. -/
def split (bits : Nat) : Nat × Int :=
  let field : Nat := bits / twoTo 52
  let fraction : Nat := bits % twoTo 52
  if field = 0 then (fraction, -1074) else (fraction + twoTo 52, (field : Int) - 1075)

/-- The bits of the product of two doubles that are not negative. -/
def mulBits (a b : Nat) : Nat :=
  if infinityBits ≤ a ∨ infinityBits ≤ b then infinityBits
  else
    let (m, p) := split a
    let (n, q) := split b
    let (num, den) := scaleRatio (m * n) 1 (p + q)
    nearestBits num den

/-- The bits of the sum of two doubles that are not negative. -/
def addBits (a b : Nat) : Nat :=
  if infinityBits ≤ a ∨ infinityBits ≤ b then infinityBits
  else
    let (m, p) := split a
    let (n, q) := split b
    let low := min p q
    let (num, den) := scaleRatio (m * twoTo (p - low).toNat + n * twoTo (q - low).toNat) 1 low
    nearestBits num den

/-- The bits of the double nearest to a decimal `digits * 10 ^ exponent`. What is written with many
places before or behind the point is far beyond the largest or the smallest double. -/
def decimalBits (digits : Nat) (exponent : Int) : Nat :=
  let places : Int := (Nat.toDigits 10 digits).length + exponent
  if digits = 0 ∨ places < -400 then 0
  else if 400 < places then infinityBits
  else if exponent < 0 then nearestBits digits (tenTo (-exponent).toNat)
  else nearestBits (digits * tenTo exponent.toNat) 1

/-- A double precision number: its sign, and the bits without the sign. -/
structure Binary64 where
  negative : Bool
  magnitude : Nat
  deriving DecidableEq, Repr

namespace Binary64

/-- The double nearest to a decimal `digits * 10 ^ exponent`. -/
def ofDecimal (negative : Bool) (digits : Nat) (exponent : Int) : Binary64 :=
  ⟨negative, decimalBits digits exponent⟩

def infinite (negative : Bool) : Binary64 := ⟨negative, infinityBits⟩

def notNumber : Binary64 := ⟨false, infinityBits + twoTo 51⟩

/-- Whether the double is the negative infinity, if it is an infinity. -/
def infinite? (x : Binary64) : Option Bool :=
  if x.magnitude = infinityBits then some x.negative else none

/-- A finite double as a ratio. -/
def ratio? (x : Binary64) : Option (Int × Nat) :=
  if infinityBits ≤ x.magnitude then none
  else
    let (m, e) := split x.magnitude
    let (num, den) := scaleRatio m 1 e
    some (if x.negative then -(num : Int) else num, den)

end Binary64

/-- Sixteen hexadecimal digits, the most significant first. -/
def hexBits (bits : Nat) : String :=
  let digits := Nat.toDigits 16 bits
  String.ofList (List.replicate (16 - digits.length) '0' ++ digits)

end LineScript.Numeral
