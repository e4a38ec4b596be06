import LineScript.Calendar
import LineScript.Numeral.Integer
import LineScript.Value

/-!
# Dates in documents
A date is written with hyphens, a moment adds the time after a letter T or after blanks, and perhaps
a zone: a letter Z, or an offset in hours and minutes.
-/
namespace LineScript.Yaml

/-- A zone as it is written: universal time, or hours and minutes on one side of it. -/
structure Zone where
  isNegative : Bool
  hours : Nat
  minutes : Nat

/-- A time as it is written. -/
structure WrittenTime where
  hour : Nat
  minute : Nat
  second : Nat
  fraction : List Nat
  zone : Option Zone

/-- A date as it is written. Without a time, month and day have two digits each. -/
structure Stamp where
  year : Nat
  month : Nat
  day : Nat
  time : Option WrittenTime

/-- Digits at the front, between `least` and `most` of them, and what follows. -/
def someDigits (least most : Nat) (chars : List Char) : Option (List Nat × List Char) :=
  let digits := (chars.take most).takeWhile Char.isDigit
  if digits.length < least then none
  else some (digits.map fun c => c.toNat - 0x30, chars.drop digits.length)

def afterChar (c : Char) : List Char → Option (List Char)
  | [] => none
  | d :: rest => if d = c then some rest else none

/-- The zone that makes up the rest of a text, if there is one. -/
def zone? (chars : List Char) : Option (Option Zone) :=
  match chars.dropWhile (fun c => c == ' ' || c == '\t') with
  | [] => if chars.isEmpty then some none else none
  | ['Z'] => some (some ⟨false, 0, 0⟩)
  | sign :: rest => do
    if sign != '+' && sign != '-' then none
    else
      let (hours, rest) ← someDigits 1 2 rest
      let minutes ← match rest with
        | [] => some [0]
        | _ => do
          let (minutes, rest) ← afterChar ':' rest >>= someDigits 2 2
          if rest.isEmpty then some minutes else none
      some (some ⟨sign == '-', Numeral.ofDigits hours, Numeral.ofDigits minutes⟩)

def time? (chars : List Char) : Option WrittenTime := do
  let (hour, rest) ← someDigits 1 2 chars
  let (minute, rest) ← afterChar ':' rest >>= someDigits 2 2
  let (second, rest) ← afterChar ':' rest >>= someDigits 2 2
  let (fraction, rest) := match rest with
    | '.' :: rest =>
      ((rest.takeWhile Char.isDigit).map fun c => c.toNat - 0x30, rest.dropWhile Char.isDigit)
    | _ => ([], rest)
  let zone ← zone? rest
  return ⟨Numeral.ofDigits hour, Numeral.ofDigits minute, Numeral.ofDigits second, fraction, zone⟩

/-- What follows the mark between a date and a time. -/
def afterDate : List Char → Option (List Char)
  | 'T' :: rest => some rest
  | 't' :: rest => some rest
  | c :: rest =>
    if c = ' ' ∨ c = '\t' then some (rest.dropWhile fun c => c == ' ' || c == '\t') else none
  | [] => none

/-- The date that a text writes, if it writes one. -/
def Stamp.read? (chars : List Char) : Option Stamp := do
  let (year, rest) ← someDigits 4 4 chars
  let (month, rest) ← afterChar '-' rest >>= someDigits 1 2
  let (day, rest) ← afterChar '-' rest >>= someDigits 1 2
  let (year, number, date) := (Numeral.ofDigits year, Numeral.ofDigits month, Numeral.ofDigits day)
  if rest.isEmpty then
    if month.length = 2 ∧ day.length = 2 then some ⟨year, number, date, none⟩ else none
  else
    let time ← afterDate rest >>= time?
    some ⟨year, number, date, some time⟩

/-- Digits behind the point of a second, in millionths. -/
def microseconds (fraction : List Nat) : Nat :=
  Numeral.ofDigits ((fraction ++ List.replicate 6 0).take 6)

/-- The offset of a zone in minutes. -/
def Zone.offset (zone : Zone) : Int :=
  let minutes : Int := zone.hours * 60 + zone.minutes
  if zone.isNegative then -minutes else minutes

/-- The date or moment that is written, if there is one. -/
def Stamp.scalar (stamp : Stamp) : Except Calendar.Misfit Scalar :=
  match stamp.time with
  | none => do return .date (← Calendar.Date.make stamp.year stamp.month stamp.day)
  | some written => do
    let offset ← written.zone.mapM fun zone => Calendar.checkOffset zone.offset
    let date ← Calendar.Date.make stamp.year stamp.month stamp.day
    let time ← Calendar.Time.make written.hour written.minute written.second
      (microseconds written.fraction)
    return .moment ⟨date, time, offset⟩

end LineScript.Yaml
