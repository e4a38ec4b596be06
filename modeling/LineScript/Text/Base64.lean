/-!
# Bytes in letters
Three bytes are written as four letters of sixty-four. Characters that are none of these letters are
passed over, and equals signs fill up the last four.
-/
namespace LineScript.Text.Base64

/-- The place of a letter among the sixty-four. -/
def place? (c : Char) : Option Nat :=
  if 'A' ≤ c ∧ c ≤ 'Z' then some (c.toNat - 0x41)
  else if 'a' ≤ c ∧ c ≤ 'z' then some (c.toNat - 0x47)
  else if '0' ≤ c ∧ c ≤ '9' then some (c.toNat + 4)
  else if c = '+' then some 62
  else if c = '/' then some 63
  else none

/-- The bytes that the letters of one group write, the group being cut short or not. -/
def groupBytes : List Nat → List UInt8
  | [a, b] => [.ofNat (a * 4 + b / 16)]
  | [a, b, c] => [.ofNat (a * 4 + b / 16), .ofNat (b % 16 * 16 + c / 4)]
  | [a, b, c, d] =>
    [.ofNat (a * 4 + b / 16), .ofNat (b % 16 * 16 + c / 4), .ofNat (c % 4 * 64 + d)]
  | _ => []

/-- The bytes of the rest of a text, behind the letters of a group that is not full and as many
equals signs as follow them. A full group may end the text, and so may one that is filled up. -/
def decodeFrom (group : List Nat) (fills : Nat) : List Char → Option (List UInt8)
  | [] => if group.isEmpty then some [] else none
  | c :: rest =>
    if c = '=' then
      if 2 ≤ group.length ∧ 4 ≤ group.length + fills + 1 then some (groupBytes group)
      else decodeFrom group (if 2 ≤ group.length then fills + 1 else fills) rest
    else match place? c with
      | none => decodeFrom group fills rest
      | some place =>
        if group.length = 3 then (decodeFrom [] 0 rest).map (groupBytes (group ++ [place]) ++ ·)
        else decodeFrom (group ++ [place]) 0 rest

/-- The bytes that a text writes, if it comes to a proper end. -/
def decode? (text : List Char) : Option (List UInt8) := decodeFrom [] 0 text

end LineScript.Text.Base64
