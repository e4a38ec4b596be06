import LineScript.Numeral.Binary64

/-!
# Shortest decimals
A double is shown with the fewest digits that read back as the same double; of several such
decimals the one nearest to the double is taken.
-/
namespace LineScript.Numeral

/-- The interval of values that round to a double, in quarters of its last place: the bounds are
those values when the mantissa is even. -/
structure Neighbourhood where
  mantissa : Nat
  exponent : Int
  below : Nat
  above : Nat

/-- The neighbourhood of a finite double. Under a power of two the doubles lie twice as close. -/
def Neighbourhood.ofBits (bits : Nat) : Neighbourhood :=
  let (m, q) := split bits
  if m = twoTo 52 ∧ twoTo 53 ≤ bits then ⟨m, q - 2, 4 * m - 1, 4 * m + 2⟩
  else ⟨m, q - 2, 4 * m - 2, 4 * m + 2⟩

/-- The decimal `digits * 10 ^ place` reads back as the double. -/
def Neighbourhood.holds (n : Neighbourhood) (digits : Nat) (place : Int) : Bool :=
  let scale (value : Nat) : Nat :=
    value * (if n.exponent < 0 then 1 else twoTo n.exponent.toNat) *
      (if place < 0 then tenTo (-place).toNat else 1)
  let decimal := digits * (if n.exponent < 0 then twoTo (-n.exponent).toNat else 1) *
    (if place < 0 then 1 else tenTo place.toNat)
  if n.mantissa % 2 = 0 then scale n.below ≤ decimal && decimal ≤ scale n.above
  else scale n.below < decimal && decimal < scale n.above

/-- The double over `10 ^ place` as a ratio. -/
def Neighbourhood.ratio (n : Neighbourhood) (place : Int) : Nat × Nat :=
  let (num, den) := scaleRatio (4 * n.mantissa) 1 n.exponent
  if place < 0 then (num * tenTo (-place).toNat, den) else (num, den * tenTo place.toNat)

/-- The greatest `k` with `10 ^ k ≤ num / den`, found from a guess that is at most one too high
or too low. -/
def floorLog10 (num den : Nat) : Int :=
  let guess : Int := ((floorLog2 num den) * 30103).fdiv 100000
  let reaches (k : Int) : Bool :=
    if k < 0 then den ≤ num * tenTo (-k).toNat else den * tenTo k.toNat ≤ num
  if reaches (guess + 1) then guess + 1 else if reaches guess then guess else guess - 1

/-- The decimal on the grid `10 ^ place` that reads back as the double, the nearer of the two
neighbours if both do. -/
def onGrid? (n : Neighbourhood) (place : Int) : Option Nat :=
  let (num, den) := n.ratio place
  let low := num / den
  let nearer := roundDiv num den
  let other := if nearer = low then low + 1 else low
  if n.holds nearer place then some nearer
  else if n.holds other place then some other
  else none

/-- The first grid, from coarse to fine, that holds a decimal of the double. -/
def firstOnGrid (n : Neighbourhood) (place : Int) : Nat → Nat × Int
  | 0 => (roundDiv (n.ratio place).1 (n.ratio place).2, place)
  | steps + 1 => match onGrid? n place with
    | some digits => (digits, place)
    | none => firstOnGrid n (place - 1) steps

def dropZeros (digits : Nat) (place : Int) : Nat → Nat × Int
  | 0 => (digits, place)
  | steps + 1 =>
    if digits % 10 = 0 ∧ digits ≠ 0 then dropZeros (digits / 10) (place + 1) steps
    else (digits, place)

/-- The shortest decimal `digits * 10 ^ place` of a finite double that is not zero. -/
def shortest (bits : Nat) : Nat × Int :=
  let n := Neighbourhood.ofBits bits
  let (num, den) := n.ratio 0
  let (digits, place) := firstOnGrid n (floorLog10 num den) 17
  dropZeros digits place 20

/-- Doubles are written positionally from a ten-thousandth up to below ten to the sixteenth, with
at least one digit after the point, and with an exponent of at least two digits elsewhere. -/
def Binary64.text (x : Binary64) : String :=
  let sign := if x.negative then "-" else ""
  if x.magnitude > infinityBits then "nan"
  else if x.magnitude = infinityBits then sign ++ "inf"
  else if x.magnitude = 0 then sign ++ "0.0"
  else
    let (digits, place) := shortest x.magnitude
    let ds := Nat.toDigits 10 digits
    let point : Int := ds.length + place
    let body :=
      if -4 < point ∧ point ≤ 0 then "0." ++ String.ofList (List.replicate (-point).toNat '0' ++ ds)
      else if 0 < point ∧ point ≤ 16 then
        if 0 ≤ place then String.ofList (ds ++ List.replicate place.toNat '0') ++ ".0"
        else String.ofList (ds.take point.toNat) ++ "." ++ String.ofList (ds.drop point.toNat)
      else
        let exponent := point - 1
        let es := Nat.toDigits 10 exponent.natAbs
        let es := List.replicate (2 - es.length) '0' ++ es
        let mantissa := match ds with
          | [d] => String.ofList [d]
          | d :: rest => String.ofList (d :: '.' :: rest)
          | [] => ""
        mantissa ++ "e" ++ (if exponent < 0 then "-" else "+") ++ String.ofList es
    sign ++ body

end LineScript.Numeral
