/-!
The fewest decimal digits that read back as a given finite number. Of the decimals with that many
digits in the interval that rounds to the number, the nearest is taken, and of two the even one.
-/

namespace BearerCheck.Decimal

/-- The digits `d₀ d₁ …` stand for `d₀.d₁… * 10 ^ point`. -/
structure Digits where
  digits : List Nat
  point : Int
  deriving DecidableEq, Repr

/-- The number `mantissa * 2 ^ exponent`. -/
structure Magnitude where
  mantissa : Nat
  exponent : Int
  deriving DecidableEq, Repr

def signBit : Nat := 0x8000000000000000

def hiddenBit : Nat := 0x10000000000000

def isNegative (x : Float) : Bool := signBit ≤ x.toBits.toNat

def magnitude (x : Float) : Magnitude :=
  let bits := x.toBits.toNat % signBit
  let field : Nat := bits / hiddenBit
  if field = 0 then ⟨bits % hiddenBit, -1074⟩
  else ⟨hiddenBit + bits % hiddenBit, (field : Nat) - (1075 : Int)⟩

namespace Magnitude

/-- A unit and a divisor such that `mantissa * unit / divisor` is the number in steps of
`10 ^ k`. -/
def scale (a : Magnitude) (k : Int) : Nat × Nat :=
  (.pow 2 a.exponent.toNat * .pow 10 (-k).toNat, .pow 2 (-a.exponent).toNat * .pow 10 k.toNat)

/-- How far below the number the interval that rounds to it reaches, in quarters of the last
place. The number below a power of two is only half as far away as the one above. -/
def reachBelow (a : Magnitude) : Nat :=
  if a.mantissa = hiddenBit ∧ -1074 < a.exponent then 1 else 2

/-- Whether `n * 10 ^ k` rounds to the number. The ends of the interval do if the mantissa is
even. -/
def isHit (a : Magnitude) (k : Int) (n : Nat) : Bool :=
  let (unit, divisor) := a.scale k
  let low := (4 * a.mantissa - a.reachBelow) * unit
  let high := (4 * a.mantissa + 2) * unit
  let value := 4 * n * divisor
  if a.mantissa % 2 = 0 then low ≤ value && value ≤ high else low < value && value < high

def nearest? (a : Magnitude) (k : Int) : Option Nat :=
  let (unit, divisor) := a.scale k
  let n := a.mantissa * unit / divisor
  let excess := 2 * (a.mantissa * unit % divisor)
  match a.isHit k n, a.isHit k (n + 1) with
  | true, true =>
    some (if excess < divisor ∨ (excess = divisor ∧ n % 2 = 0) then n else n + 1)
  | true, false => some n
  | false, true => some (n + 1)
  | false, false => none

def shift (a : Magnitude) (start : Nat) : Nat → Nat
  | 0 => start
  | count + 1 =>
    let (unit, divisor) := a.scale (-start)
    if divisor ≤ a.mantissa * unit then start else a.shift (start + 1) count

/-- The `p` with `10 ^ p ≤ number < 10 ^ (p + 1)`. -/
def point (a : Magnitude) : Int :=
  let (unit, divisor) := a.scale 0
  let whole := a.mantissa * unit / divisor
  if whole = 0 then -(a.shift 1 400) else (Nat.toDigits 10 whole).length - 1

def search (a : Magnitude) (p : Int) (count : Nat) : Nat → Nat × Int
  | 0 => (0, p)
  | more + 1 =>
    match a.nearest? (p - count + 1) with
    | some n => (n, p - count + 1)
    | none => a.search p (count + 1) more

end Magnitude

def digitsOf (n : Nat) : List Nat := (Nat.toDigits 10 n).map (·.toNat - 48)

def shortest (a : Magnitude) : Digits :=
  let (n, k) := a.search a.point 1 17
  let ds := digitsOf n
  ⟨(ds.reverse.dropWhile (· = 0)).reverse, k + ds.length - 1⟩

structure Layout where
  least : Int
  greatest : Int
  positive : String
  negative : String

def text (ds : List Nat) : String := String.join (ds.map toString)

def positional (d : Digits) : String :=
  if d.point < 0 then
    "0." ++ text (List.replicate (-d.point - 1).toNat 0) ++ text d.digits
  else
    let whole := d.point.toNat + 1
    let padded := d.digits ++ List.replicate (whole - d.digits.length) 0
    let fraction := padded.drop whole
    text (padded.take whole) ++ "." ++ (if fraction = [] then "0" else text fraction)

def scientific (l : Layout) (d : Digits) : String :=
  text (d.digits.take 1) ++ (if d.digits.length ≤ 1 then "" else "." ++ text (d.digits.drop 1)) ++
    (if d.point < 0 then l.negative else l.positive) ++ toString d.point.natAbs

def Layout.write (l : Layout) (x : Float) : String :=
  let a := magnitude x
  let sign := if isNegative x then "-" else ""
  if a.mantissa = 0 then sign ++ "0.0"
  else
    let d := shortest a
    sign ++ (if l.least ≤ d.point ∧ d.point ≤ l.greatest then positional d else scientific l d)

end BearerCheck.Decimal
