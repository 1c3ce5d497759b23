import BearerCheck.Json.Error

/-!
The text of a number and the number it stands for.

An integer that fits a word is that integer. Any other number is found in two roundings, so that it
need not be the nearest one: the leading digits that fit 64 bits are rounded to binary64, and the
result is multiplied or divided by a power of ten.
-/

namespace BearerCheck.Json

open Text

structure NumberText where
  negative : Bool
  whole : List Nat
  fraction : List Nat
  exponentNegative : Bool
  exponent : List Nat
  deriving DecidableEq, Repr

inductive NumberFault where
  | cut
  | malformed
  deriving DecidableEq, Repr

def fault : List UInt8 → NumberFault
  | [] => .cut
  | _ :: _ => .malformed

def digits : List UInt8 → List Nat × List UInt8
  | [] => ([], [])
  | b :: r =>
    match Ascii.digit? b with
    | some d => let (ds, t) := digits r; (d :: ds, t)
    | none => ([], b :: r)

def someDigits (s : List UInt8) : Except NumberFault (List Nat × List UInt8) :=
  match digits s with
  | ([], r) => .error (fault r)
  | (ds, r) => .ok (ds, r)

def wholePart (s : List UInt8) : Except NumberFault (List Nat × List UInt8) :=
  match someDigits s with
  | .ok (0 :: _ :: _, _) => .error .malformed
  | read => read

def fractionPart : List UInt8 → Except NumberFault (List Nat × List UInt8)
  | Ascii.dot :: r => someDigits r
  | s => .ok ([], s)

def exponentSign : List UInt8 → Bool × List UInt8
  | Ascii.minus :: r => (true, r)
  | Ascii.plus :: r => (false, r)
  | s => (false, s)

def exponentPart : List UInt8 → Except NumberFault ((Bool × List Nat) × List UInt8)
  | [] => .ok ((false, []), [])
  | b :: r =>
    if b = 0x65 ∨ b = 0x45 then do
      let (negative, t) := exponentSign r
      let (ds, t) ← someDigits t
      .ok ((negative, ds), t)
    else .ok ((false, []), b :: r)

def numberText (negative : Bool) (s : List UInt8) :
    Except NumberFault (NumberText × List UInt8) := do
  let (whole, r) ← wholePart s
  let (fraction, r) ← fractionPart r
  let ((exponentNegative, exponent), r) ← exponentPart r
  .ok (⟨negative, whole, fraction, exponentNegative, exponent⟩, r)

def appendDigits (n : Nat) : List Nat → Nat × List Nat
  | [] => (n, [])
  | d :: ds => if 10 * n + d < UInt64.size then appendDigits (10 * n + d) ds else (n, d :: ds)

def powerOfTen (n : Nat) : Float := Float.ofScientific 1 false n

def greatestPower : Nat := 308

def scaleUp (x : Float) (n : Nat) : Except Error Float :=
  if n ≤ greatestPower then
    let y := x * powerOfTen n
    if y.isInf then .error .numberRange else .ok y
  else if x == 0 then .ok x
  else .error .numberRange

def scaleDown (x : Float) (n : Nat) : Float :=
  if n ≤ greatestPower then x / powerOfTen n
  else if x == 0 then x
  else scaleDown (x / powerOfTen greatestPower) (n - greatestPower)
  termination_by n
  decreasing_by simp only [greatestPower] at *; omega

def scale (x : Float) (e : Int) : Except Error Float :=
  if 0 ≤ e then scaleUp x e.toNat else .ok (scaleDown x e.natAbs)

def withSign (negative : Bool) (x : Float) : Float := if negative then -x else x

/-- An integer text, if the integer fits a word. Minus zero is none. -/
def NumberText.integer? (t : NumberText) : Option Integer :=
  if t.fraction = [] ∧ t.exponent = [] then
    match appendDigits 0 t.whole with
    | (n, []) =>
      let i : Int := if t.negative then -n else n
      if h : -0x8000000000000000 ≤ i ∧ i < 0x10000000000000000 then
        if t.negative ∧ n = 0 then none else some ⟨i, h⟩
      else none
    | _ => none
  else none

def NumberText.exponentValue (t : NumberText) : Int :=
  let n : Nat := t.exponent.foldl (fun n d => 10 * n + d) 0
  if t.exponentNegative then -n else n

/-- Each digit before the point that did not fit counts as one more power of ten, and each one after
it that did as one less. -/
def NumberText.real (t : NumberText) : Except Error Float := do
  let (n, dropped) := appendDigits 0 t.whole
  let (n, unused) := appendDigits n t.fraction
  let e := t.exponentValue + dropped.length - (t.fraction.length - unused.length : Nat)
  let x ← scale (Float.ofNat n) e
  .ok (withSign t.negative x)

def NumberText.value (t : NumberText) : Except Error Number :=
  match t.integer? with
  | some i => .ok (.integer i)
  | none => t.real.map .real

end BearerCheck.Json
