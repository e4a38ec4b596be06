/-!
# UTF-8
Bytes are read one at a time. Where they do not form a character, every longest part that could
have begun one counts as one defect: lenient reading writes the replacement character for it,
strict reading reports it.
-/
namespace LineScript.Text.Utf8

def encodeChars (cs : List Char) : List UInt8 := cs.flatMap String.utf8EncodeChar

def encode (text : String) : List UInt8 := encodeChars text.toList

/-- The character that stands for bytes that form none. -/
def replacement : Char := '\uFFFD'

/-- A character that has begun: how many bytes it lacks, between which bounds the next one lies,
and the bits read so far. -/
structure Partial where
  missing : Nat
  low : UInt8
  high : UInt8
  bits : Nat

/-- What a byte means where a character may begin. -/
inductive Lead where
  | char (c : Char)
  | begins (p : Partial)
  | invalid

/-- The bounds of the second byte keep out forms that are too long, surrogates, and code points
beyond the last one. -/
def lead (b : UInt8) : Lead :=
  if b < 0x80 then .char (Char.ofNat b.toNat)
  else if b < 0xc2 then .invalid
  else if b < 0xe0 then .begins ⟨1, 0x80, 0xbf, b.toNat - 0xc0⟩
  else if b = 0xe0 then .begins ⟨2, 0xa0, 0xbf, 0⟩
  else if b = 0xed then .begins ⟨2, 0x80, 0x9f, 0xd⟩
  else if b < 0xf0 then .begins ⟨2, 0x80, 0xbf, b.toNat - 0xe0⟩
  else if b = 0xf0 then .begins ⟨3, 0x90, 0xbf, 0⟩
  else if b < 0xf4 then .begins ⟨3, 0x80, 0xbf, b.toNat - 0xf0⟩
  else if b = 0xf4 then .begins ⟨3, 0x80, 0x8f, 4⟩
  else .invalid

/-- The next byte goes on with the character. -/
def Partial.accepts (p : Partial) (b : UInt8) : Bool := p.low ≤ b && b ≤ p.high

/-- The character with one more byte read, finished when none is missing. -/
def Partial.add (p : Partial) (b : UInt8) : Char ⊕ Partial :=
  let bits := p.bits * 64 + (b.toNat - 0x80)
  if p.missing ≤ 1 then .inl (Char.ofNat bits) else .inr ⟨p.missing - 1, 0x80, 0xbf, bits⟩

/-- A byte where a character may begin: the characters it yields and the character it begins. -/
def start (b : UInt8) : List Char × Option Partial :=
  match lead b with
  | .char c => ([c], none)
  | .begins p => ([], some p)
  | .invalid => ([replacement], none)

/-- A byte after what has been read: the characters it yields and the character it leaves open. -/
def step (open? : Option Partial) (b : UInt8) : List Char × Option Partial :=
  match open? with
  | none => start b
  | some p =>
    if p.accepts b then
      match p.add b with
      | .inl c => ([c], none)
      | .inr p => ([], some p)
    else
      let (cs, next) := start b
      (replacement :: cs, next)

/-- Lenient reading that goes on from an open character. -/
def decodeFrom (open? : Option Partial) : List UInt8 → List Char
  | [] => if open?.isSome then [replacement] else []
  | b :: rest =>
    let (cs, next) := step open? b
    cs ++ decodeFrom next rest

/-- Lenient reading: one replacement character for each part that forms no character. -/
def decodeChars (bytes : List UInt8) : List Char := decodeFrom none bytes

/-- Lenient reading of a text. -/
def decode (bytes : List UInt8) : String := String.ofList (decodeChars bytes)

/-- Why bytes form no character. -/
inductive Flaw where
  | invalidStart
  | invalidContinuation
  | unexpectedEnd
  deriving DecidableEq, Repr

/-- The first place where strict reading fails: the byte there, where the part that forms no
character begins and ends, and why. -/
structure Defect where
  byte : UInt8
  first : Nat
  stop : Nat
  flaw : Flaw
  deriving DecidableEq, Repr

def Defect.message (d : Defect) : String :=
  let place :=
    if d.stop = d.first + 1 then
      "byte 0x" ++ String.ofList (Nat.toDigits 16 d.byte.toNat) ++ " in position " ++ toString d.first
    else "bytes in position " ++ toString d.first ++ "-" ++ toString (d.stop - 1)
  let reason := match d.flaw with
    | .invalidStart => "invalid start byte"
    | .invalidContinuation => "invalid continuation byte"
    | .unexpectedEnd => "unexpected end of data"
  "'utf-8' codec can't decode " ++ place ++ ": " ++ reason

/-- Strict reading from position `pos`, with the character that is open, its first byte and where
that byte stands. -/
def readFrom (pos : Nat) (open? : Option (Partial × UInt8 × Nat)) (done : List Char) :
    List UInt8 → Except Defect (List Char)
  | [] => match open? with
    | none => .ok done.reverse
    | some (_, b, first) => .error ⟨b, first, pos, .unexpectedEnd⟩
  | b :: rest => match open? with
    | none => match lead b with
      | .char c => readFrom (pos + 1) none (c :: done) rest
      | .begins p => readFrom (pos + 1) (some (p, b, pos)) done rest
      | .invalid => .error ⟨b, pos, pos + 1, .invalidStart⟩
    | some (p, b₀, first) =>
      if p.accepts b then
        match p.add b with
        | .inl c => readFrom (pos + 1) none (c :: done) rest
        | .inr p => readFrom (pos + 1) (some (p, b₀, first)) done rest
      else .error ⟨b₀, first, pos, .invalidContinuation⟩

/-- Strict reading: the characters, or the first defect. -/
def read (bytes : List UInt8) : Except Defect (List Char) := readFrom 0 none [] bytes

end LineScript.Text.Utf8
