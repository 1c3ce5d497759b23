import BearerCheck.Text.Ascii

namespace BearerCheck.Base64

open Text

inductive Error where
  | symbol (byte : UInt8) (offset : Nat)
  | lastSymbol (byte : UInt8) (offset : Nat)
  | length (n : Nat)
  | padding
  deriving DecidableEq, Repr

def Error.message : Error → String
  | .symbol b k => "Invalid symbol " ++ toString b.toNat ++ ", offset " ++ toString k ++ "."
  | .lastSymbol b k =>
    "Invalid last symbol " ++ toString b.toNat ++ ", offset " ++ toString k ++ "."
  | .length n => "Invalid input length: " ++ toString n
  | .padding => "Invalid padding"

def symbol (n : Nat) : UInt8 :=
  if n < 26 then n.toUInt8 + 0x41
  else if n < 52 then n.toUInt8 + 0x47
  else if n < 62 then n.toUInt8 - 0x04
  else if n = 62 then 0x2D
  else 0x5F

def sextet? (b : UInt8) : Option Nat :=
  if 0x41 ≤ b ∧ b ≤ 0x5A then some (b - 0x41).toNat
  else if 0x61 ≤ b ∧ b ≤ 0x7A then some (b - 0x47).toNat
  else if 0x30 ≤ b ∧ b ≤ 0x39 then some (b + 0x04).toNat
  else if b = 0x2D then some 62
  else if b = 0x5F then some 63
  else none

def encode : List UInt8 → List UInt8
  | [] => []
  | [a] => [symbol (a.toNat / 4), symbol (a.toNat % 4 * 16)]
  | [a, b] =>
    [symbol (a.toNat / 4), symbol (a.toNat % 4 * 16 + b.toNat / 16), symbol (b.toNat % 16 * 4)]
  | a :: b :: c :: r =>
    symbol (a.toNat / 4) :: symbol (a.toNat % 4 * 16 + b.toNat / 16) ::
      symbol (b.toNat % 16 * 4 + c.toNat / 64) :: symbol (c.toNat % 64) :: encode r

def sextet (offset : Nat) (b : UInt8) : Except Error Nat :=
  match sextet? b with
  | some n => .ok n
  | none => .error (.symbol b offset)

def triple (i j k l : Nat) : List UInt8 :=
  [(i * 4 + j / 16).toUInt8, (j % 16 * 16 + k / 4).toUInt8, (k % 4 * 64 + l).toUInt8]

/-- The sextets of the last group, of which `place` have been read, and whether padding follows.
Padding may stand only behind two symbols, with nothing but padding after it. -/
def lastSextets (offset : Nat) : Nat → List UInt8 → Except Error (List Nat × Bool)
  | _, [] => .ok ([], false)
  | place, b :: r =>
    if b = Ascii.equals then
      if place < 2 ∨ r.any (· ≠ Ascii.equals) then .error (.symbol b (offset + place))
      else .ok ([], true)
    else do
      let n ← sextet (offset + place) b
      let (ns, padded) ← lastSextets offset (place + 1) r
      .ok (n :: ns, padded)

def decodeLast (offset : Nat) (group : List UInt8) : Except Error (List UInt8) := do
  let (ns, padded) ← lastSextets offset 0 group
  match ns with
  | [_] => .error (.length (offset + 1))
  | _ =>
    if padded then .error .padding
    else
      match ns with
      | [i, j] =>
        if j % 16 = 0 then .ok [(i * 4 + j / 16).toUInt8]
        else .error (.lastSymbol (symbol j) (offset + 1))
      | [i, j, k] =>
        if k % 4 = 0 then .ok [(i * 4 + j / 16).toUInt8, (j % 16 * 16 + k / 4).toUInt8]
        else .error (.lastSymbol (symbol k) (offset + 2))
      | [i, j, k, l] => .ok (triple i j k l)
      | _ => .ok []

def decodeGroups (offset : Nat) : List UInt8 → Except Error (List UInt8)
  | a :: b :: c :: d :: e :: r => do
    let i ← sextet offset a
    let j ← sextet (offset + 1) b
    let k ← sextet (offset + 2) c
    let l ← sextet (offset + 3) d
    let bytes ← decodeGroups (offset + 4) (e :: r)
    .ok (triple i j k l ++ bytes)
  | group => decodeLast offset group

def decode (s : List UInt8) : Except Error (List UInt8) :=
  match s.getLast? with
  | some b =>
    if s.length % 4 = 1 ∧ sextet? b = none ∧ b ≠ Ascii.equals then
      .error (.symbol b (s.length - 1))
    else decodeGroups 0 s
  | none => .ok []

end BearerCheck.Base64
