import BearerCheck.Text.Ascii
import BearerCheck.Text.Utf8

namespace BearerCheck.Url.Percent

open Text

def upperHex (n : Nat) : Char := if n < 10 then Char.ofNat (48 + n) else Char.ofNat (55 + n)

def encodeByte (b : UInt8) : List Char := ['%', upperHex (b.toNat / 16), upperHex (b.toNat % 16)]

def encodeChar (special : List Char) (c : Char) : List Char :=
  if c.toNat < 0x20 ∨ 0x7E < c.toNat ∨ c ∈ special then
    (String.utf8EncodeChar c).flatMap encodeByte
  else [c]

def encode (special : List Char) (s : List Char) : List Char := s.flatMap (encodeChar special)

def fragmentSet : List Char := [' ', '"', '<', '>', '`']

def querySet : List Char := [' ', '"', '<', '>', '#']

def specialQuerySet : List Char := '\'' :: querySet

def pathSet : List Char := [' ', '"', '<', '>', '`', '#', '?', '\x7b', '\x7d']

def userSet : List Char := ['/', ':', ';', '=', '@', '[', '\\', ']', '^', '|'] ++ pathSet

def decode : List UInt8 → List UInt8
  | [] => []
  | [b] => [b]
  | [b, c] => [b, c]
  | b :: c :: d :: r =>
    if b = 0x25 then
      match Ascii.hexDigit? c, Ascii.hexDigit? d with
      | some h, some l => (16 * h + l).toUInt8 :: decode r
      | _, _ => b :: decode (c :: d :: r)
    else b :: decode (c :: d :: r)

end BearerCheck.Url.Percent
