/-!
# Base64

Data is read in groups of four digits of six bits. Characters outside the alphabet are passed over.
Padding ends the data where it completes a group of two or three digits, and counts for nothing
anywhere else.
-/

namespace CodecTables.Data.Base64

/-- The value of a character of the alphabet. -/
def digit? (c : Char) : Option Nat :=
  if 'A' ≤ c && c ≤ 'Z' then some (c.toNat - 65)
  else if 'a' ≤ c && c ≤ 'z' then some (c.toNat - 71)
  else if '0' ≤ c && c ≤ '9' then some (c.toNat + 4)
  else if c = '+' then some 62
  else if c = '/' then some 63
  else none

/-- The whole bytes that the digits of a group determine. -/
def groupBytes : List Nat → List UInt8
  | [a, b] => [UInt8.ofNat (4 * a + b / 16)]
  | [a, b, c] => [UInt8.ofNat (4 * a + b / 16), UInt8.ofNat (16 * (b % 16) + c / 4)]
  | [a, b, c, d] =>
    [UInt8.ofNat (4 * a + b / 16), UInt8.ofNat (16 * (b % 16) + c / 4),
      UInt8.ofNat (64 * (c % 4) + d)]
  | _ => []

/-- Reads on with the digits of an unfinished group and the padding seen since the last of them. -/
def decodeFrom? (group : List Nat) (padding : Nat) : List Char → Option (List UInt8)
  | [] => if group.isEmpty then some [] else none
  | '=' :: rest =>
    if group.length < 2 then decodeFrom? group padding rest
    else if 4 ≤ group.length + padding + 1 then some (groupBytes group)
    else decodeFrom? group (padding + 1) rest
  | c :: rest =>
    match digit? c with
    | none => decodeFrom? group padding rest
    | some value =>
      if group.length = 3 then
        (decodeFrom? [] 0 rest).map (groupBytes (group ++ [value]) ++ ·)
      else decodeFrom? (group ++ [value]) 0 rest

/-- The bytes that a text stands for, if its last group is complete. -/
def decode? (cs : List Char) : Option (List UInt8) := decodeFrom? [] 0 cs

end CodecTables.Data.Base64
