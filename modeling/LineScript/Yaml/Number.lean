import LineScript.Numeral.Binary64
import LineScript.Numeral.Integer
import LineScript.Path
import LineScript.Yaml.Quoted

/-!
# Numbers in documents
Integers are written in decimal, binary, octal or hexadecimal digits, or with colons between numbers
to base sixty; other numbers have a point. Underscores between digits are ignored. A scalar that a
tag declares to be a number is read more generously than one that looks like a number.
-/
namespace LineScript.Yaml

/-- A digit, or an underscore between digits. -/
def isDigitOrGap (c : Char) : Bool := c.isDigit || c == '_'

/-- A text without its sign, and whether that was a minus. -/
def splitSign : List Char → Bool × List Char
  | '-' :: rest => (true, rest)
  | '+' :: rest => (false, rest)
  | chars => (false, chars)

/-- All of at least one character satisfy `p`. -/
def isRunOf (p : Char → Bool) (chars : List Char) : Bool := !chars.isEmpty && chars.all p

/-- Two digits of a number to base sixty, the first of which may be missing. -/
def isSixtieth : List Char → Bool
  | [a] => a.isDigit
  | [a, b] => '0' ≤ a && a ≤ '5' && b.isDigit
  | _ => false

/-- Decimal digits that do not begin with an underscore. -/
def isDecimalRun : List Char → Bool
  | [] => false
  | c :: rest => c.isDigit && rest.all isDigitOrGap

/-- Decimal digits that do not begin with a zero. -/
def isLeadingRun (chars : List Char) : Bool := isDecimalRun chars && chars.head? != some '0'

def looksInteger (chars : List Char) : Bool :=
  let digits := (splitSign chars).2
  match digits with
  | '0' :: 'b' :: rest => isRunOf (fun c => c == '0' || c == '1' || c == '_') rest
  | '0' :: 'x' :: rest => isRunOf (fun c => (hexValue? c).isSome || c == '_') rest
  | ['0'] => true
  | '0' :: rest => isRunOf (fun c => ('0' ≤ c && c ≤ '7') || c == '_') rest
  | _ => match Path.splitAt (· == ':') digits with
    | [whole] => isLeadingRun whole
    | whole :: parts => isLeadingRun whole && parts.all isSixtieth
    | [] => false

/-- A signed power of ten. -/
def looksExponent : List Char → Bool
  | [] => true
  | e :: sign :: digits =>
    (e == 'e' || e == 'E') && (sign == '+' || sign == '-') && isRunOf Char.isDigit digits
  | _ => false

/-- What may stand behind the point of a number. -/
def looksFraction (chars : List Char) : Bool := looksExponent (chars.dropWhile isDigitOrGap)

/-- A text that looks like a number with a point, infinite or none at all. -/
def looksFloat (chars : List Char) : Bool :=
  let (_, digits) := splitSign chars
  let whole := digits.takeWhile (· != '.')
  match digits.drop whole.length with
  | [] => false
  | _ :: fraction =>
    if whole.isEmpty then
      [".inf", ".Inf", ".INF"].contains (String.ofList digits) ||
        [".nan", ".NaN", ".NAN"].contains (String.ofList chars) ||
        (digits.length == chars.length && (fraction.head?.any Char.isDigit) &&
          looksFraction fraction)
    else match Path.splitAt (· == ':') whole with
      | [whole] => isDecimalRun whole && looksFraction fraction
      | whole :: parts =>
        isDecimalRun whole && parts.all isSixtieth && fraction.all isDigitOrGap
      | [] => false

def decimal (text : List Char) : Except Defect Int :=
  let count := (text.filter fun c => (Text.digitValue? c).isSome).length
  match Numeral.readInteger? (String.ofList text) with
  | some n => .ok n
  | none => .error <| .worthless <| .value <|
    if Numeral.maxDigits < count then .tooManyDigits count
    else .notInteger 10 (String.ofList text)

/-- The integer that digits to a base write. -/
def inBase (base : Nat) (digits : List Char) : Except Defect Int :=
  match digits.mapM fun c => (hexValue? c).filter (· < base) with
  | some values =>
    if values.isEmpty then .error (.worthless (.value (.notInteger base "")))
    else .ok (values.foldl (fun n value => n * base + value) 0 : Nat)
  | none => .error (.worthless (.value (.notInteger base (String.ofList digits))))

/-- The number whose digits to base sixty are given, the first of them first. -/
def inSixties (digits : List Int) : Int := digits.foldl (fun n digit => n * 60 + digit) 0

def readInteger (text : List Char) : Except Defect Int := do
  let (isNegative, digits) := splitSign (text.filter (· != '_'))
  let n ← match digits with
    | ['0'] => pure 0
    | '0' :: 'b' :: rest => inBase 2 rest
    | '0' :: 'x' :: rest => inBase 16 rest
    | '0' :: _ => inBase 8 digits
    | [] => throw .malformed
    | _ =>
      if digits.contains ':' then
        inSixties <$> (Path.splitAt (· == ':') digits).mapM decimal
      else decimal digits
  return if isNegative then -n else n

def notNumber (text : List Char) : Defect :=
  .worthless (.value (.notNumber (String.ofList text)))

/-- The power of ten at the end of a number. -/
def readExponent : List Char → Option Int
  | [] => some 0
  | e :: rest =>
    let (isNegative, digits) := splitSign rest
    if e != 'e' || !isRunOf Char.isDigit digits then none
    else
      let n : Int := Numeral.ofDigits (digits.map fun c => c.toNat - 0x30)
      some (if isNegative then -n else n)

/-- The bits of the number without a sign that a text writes, with or without a point. -/
def readMagnitude (text : List Char) : Except Defect Nat :=
  let whole := text.takeWhile Char.isDigit
  let rest := text.drop whole.length
  let (fraction, rest) := match rest with
    | '.' :: rest => (rest.takeWhile Char.isDigit, rest.dropWhile Char.isDigit)
    | _ => ([], rest)
  let digits := (whole ++ fraction).map fun c => c.toNat - 0x30
  match readExponent rest with
  | some exponent =>
    if digits.isEmpty then .error (notNumber text)
    else .ok (Numeral.decimalBits (Numeral.ofDigits digits) (exponent - fraction.length))
  | none =>
    if ["inf", "infinity"].contains (String.ofList text) then .ok Numeral.infinityBits
    else .error (notNumber text)

/-- The bits of the number whose parts to base sixty are given, the last of them first. -/
def sumSixties (base sum : Nat) : List Nat → Nat
  | [] => sum
  | part :: rest =>
    sumSixties (base * 60) (Numeral.addBits sum (Numeral.mulBits part (Numeral.nearestBits base 1)))
      rest

/-- The number that a text writes, with or without a point. -/
def readFloat (text : List Char) : Except Defect Numeral.Binary64 := do
  let (isNegative, digits) := splitSign ((text.filter (· != '_')).map Char.toLower)
  if digits = ".inf".toList then return .infinite isNegative
  else if digits = ".nan".toList ∨ digits = "nan".toList then return .notNumber
  else if digits.contains ':' then
    let parts ← (Path.splitAt (· == ':') digits).mapM readMagnitude
    return ⟨isNegative, sumSixties 1 0 parts.reverse⟩
  else return ⟨isNegative, ← readMagnitude digits⟩

end LineScript.Yaml
