namespace BearerCheck.Domain.Punycode

def digit (n : Nat) : Char := if n < 26 then Char.ofNat (97 + n) else Char.ofNat (22 + n)

def digit? (c : Char) : Option Nat :=
  if 'a' ≤ c ∧ c ≤ 'z' then some (c.toNat - 97)
  else if 'A' ≤ c ∧ c ≤ 'Z' then some (c.toNat - 65)
  else if c.isDigit then some (c.toNat - 22)
  else none

def threshold (bias place : Nat) : Nat := min 26 (max 1 (36 * (place + 1) - bias))

def adaptLoop (delta : Nat) : Nat :=
  if delta ≤ 455 then 36 * delta / (delta + 38) else 36 + adaptLoop (delta / 35)
  termination_by delta
  decreasing_by omega

def adapt (delta count : Nat) (first : Bool) : Nat :=
  let d := if first then delta / 700 else delta / 2
  adaptLoop (d + d / count)

def number (bias : Nat) (place q : Nat) : List Char :=
  let t := threshold bias place
  if q < t then [digit q]
  else digit (t + (q - t) % (36 - t)) :: number bias (place + 1) ((q - t) / (36 - t))
  termination_by q
  decreasing_by
    have ht : threshold bias place ≤ 26 := by simp only [threshold]; omega
    have hp : 1 ≤ threshold bias place := by simp only [threshold]; omega
    have hd := Nat.div_le_self (q - threshold bias place) (36 - threshold bias place)
    omega

structure Encoder where
  next : Nat
  delta : Nat
  bias : Nat
  placed : Nat
  first : Bool
  output : List Char

def Encoder.pass (e : Encoder) (n : Nat) (text : List Char) : Encoder :=
  let start := { e with delta := e.delta + (n - e.next) * (e.placed + 1) }
  let e := text.foldl (fun e c =>
    if c.toNat < n then { e with delta := e.delta + 1 }
    else if c.toNat = n then
      { e with
        delta := 0
        bias := adapt e.delta (e.placed + 1) e.first
        placed := e.placed + 1
        first := false
        output := e.output ++ number e.bias 0 e.delta }
    else e) start
  { e with next := n + 1, delta := e.delta + 1 }

def sorted (text : List Char) : List Nat :=
  ((text.map (·.toNat)).filter (0x80 ≤ ·)).mergeSort.eraseDups

def encode (text : List Char) : List Char :=
  let basic := text.filter (·.toNat < 0x80)
  let front := if basic = [] then [] else basic ++ ['-']
  let e := (sorted text).foldl (fun (e : Encoder) n => e.pass n text)
    ⟨0x80, 0, 72, basic.length, true, []⟩
  front ++ e.output

structure Decoder where
  text : List Char
  point : Nat
  place : Nat
  bias : Nat
  value : Nat
  weight : Nat
  length : Nat
  first : Bool

def Decoder.insert? (d : Decoder) (value : Nat) : Option Decoder :=
  let count := d.text.length + 1
  let total := d.place + value
  let point := d.point + total / count
  let place := total % count
  if h : point.isValidChar then
    some
      { text := d.text.take place ++ Char.ofNatAux point h :: d.text.drop place
        point := point
        place := place + 1
        bias := adapt value count d.first
        value := 0
        weight := 1
        length := 0
        first := false }
  else none

def decodeDigits? (d : Decoder) : List Char → Option (List Char)
  | [] => if d.length = 0 then some d.text else none
  | c :: r => do
    let n ← digit? c
    let value := d.value + n * d.weight
    let t := threshold d.bias d.length
    if n < t then decodeDigits? (← d.insert? value) r
    else
      decodeDigits?
        { d with value := value, weight := d.weight * (36 - t), length := d.length + 1 } r

def splitLast (s : List Char) : List Char × List Char :=
  let behind := (s.reverse.takeWhile (· ≠ '-')).reverse
  let front := s.take (s.length - behind.length - 1)
  if front = [] then ([], s) else (front, behind)

def decode? (s : List Char) : Option (List Char) :=
  let (front, behind) := splitLast s
  if front.all (·.toNat < 0x80) then
    decodeDigits? ⟨front, 0x80, 0, 72, 0, 1, 0, true⟩ behind
  else none

end BearerCheck.Domain.Punycode
