namespace BearerCheck.Url

inductive Host where
  | name (s : String)
  | ipv4 (address : Nat)
  | ipv6 (pieces : List Nat)
  deriving DecidableEq, Repr

def digitsValue? (base : Nat) (ds : List Char) : Option Nat :=
  ds.foldl (fun n c => do
    let d ← digit? c
    if d < base then some (base * (← n) + d) else none) (some 0)
where
  digit? (c : Char) : Option Nat :=
    if c.isDigit then some (c.toNat - 48)
    else if 'a' ≤ c ∧ c ≤ 'f' then some (c.toNat - 87)
    else if 'A' ≤ c ∧ c ≤ 'F' then some (c.toNat - 55)
    else none

namespace Ipv4

def number? : List Char → Option Nat
  | [] => none
  | '0' :: 'x' :: r | '0' :: 'X' :: r => digitsValue? 16 r
  | '0' :: c :: r => digitsValue? 8 (c :: r)
  | ds => digitsValue? 10 ds

def parts (s : String) : List (List Char) :=
  let ps := s.toList.splitOn '.'
  if ps.getLast? = some [] then ps.dropLast else ps

def endsInNumber (s : String) : Bool :=
  match (parts s).getLast? with
  | some p => (p ≠ [] ∧ p.all Char.isDigit) || (number? p).isSome
  | none => false

/-- All numbers but the last stand for one byte, and the last for all that are left. -/
def read? (s : String) : Option Nat := do
  let ns ← (parts s).mapM number?
  let last ← ns.getLast?
  let bytes := ns.dropLast
  if 3 < bytes.length ∨ bytes.any (255 < ·) ∨ Nat.pow 256 (4 - bytes.length) ≤ last then none
  else some ((bytes.zipIdx.map fun (b, i) => b * .pow 256 (3 - i)).foldl (· + ·) last)

def text (address : Nat) : String :=
  toString (address / 0x1000000 % 256) ++ "." ++ toString (address / 0x10000 % 256) ++ "." ++
    toString (address / 256 % 256) ++ "." ++ toString (address % 256)

end Ipv4

namespace Ipv6

def isHex (c : Char) : Bool := (digitsValue?.digit? c).isSome

def byte? (ds : List Char) : Option Nat :=
  match ds with
  | [] => none
  | '0' :: _ :: _ => none
  | _ => if ds.all Char.isDigit then (digitsValue? 10 ds).filter (· ≤ 255) else none

def dotted? (s : List Char) : Option (List Nat) :=
  match (s.splitOn '.').mapM byte? with
  | some [a, b, c, d] => some [256 * a + b, 256 * c + d]
  | _ => none

def pieces? : Nat → List Char → Option (List Nat × Option (List Char))
  | 0, _ => none
  | n + 1, s =>
    let ds := (s.takeWhile isHex).take 4
    if ds = [] then none
    else do
      let p ← digitsValue? 16 ds
      match s.drop ds.length with
      | [] => some ([p], none)
      | '.' :: _ => some (← dotted? s, none)
      | ':' :: ':' :: r => some ([p], some r)
      | ':' :: r =>
        let (ps, rest) ← pieces? n r
        some (p :: ps, rest)
      | _ => none

def enough : Nat := 9

def compressed? (before : List Nat) (rest : List Char) : Option (List Nat) := do
  let after ←
    if rest = [] then some []
    else
      match ← pieces? enough rest with
      | (ps, none) => some ps
      | (_, some _) => none
  if before.length + after.length ≤ 7 then
    some (before ++ List.replicate (8 - before.length - after.length) 0 ++ after)
  else none

def read? (s : List Char) : Option (List Nat) :=
  match s with
  | ':' :: ':' :: r => compressed? [] r
  | _ => do
    match ← pieces? enough s with
    | (ps, none) => if ps.length = 8 then some ps else none
    | (ps, some r) => compressed? ps r

def longestRun (ps : List Nat) : Nat × Nat :=
  (List.range ps.length).foldl (fun best i =>
    let count := ((ps.drop i).takeWhile (· = 0)).length
    if best.2 < count then (i, count) else best) (0, 0)

def hex (ps : List Nat) : String :=
  ":".intercalate (ps.map fun p => String.ofList (Nat.toDigits 16 p))

def text (ps : List Nat) : String :=
  let (i, count) := longestRun ps
  if 1 < count then hex (ps.take i) ++ "::" ++ hex (ps.drop (i + count)) else hex ps

end Ipv6

def Host.text : Host → String
  | .name s => s
  | .ipv4 a => Ipv4.text a
  | .ipv6 ps => "[" ++ Ipv6.text ps ++ "]"

end BearerCheck.Url
