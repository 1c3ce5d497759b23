import BearerCheck.Dictionary
import BearerCheck.Json.Number
import BearerCheck.Json.Quoted

namespace BearerCheck.Json

open Text

abbrev Reader (α : Type) := List UInt8 → Except Error (α × List UInt8)

def isSpace (b : UInt8) : Bool :=
  b = Ascii.space || b = Ascii.lineFeed || b = Ascii.tab || b = Ascii.carriageReturn

def skipSpace (s : List UInt8) : List UInt8 := s.dropWhile isSpace

inductive Start where
  | scalar (s : Scalar)
  | array
  | object

def word (s : Scalar) : List UInt8 → Reader Scalar
  | [], r => .ok (s, r)
  | _ :: _, [] => .error .endOfValue
  | w :: ws, b :: r => if b = w then word s ws r else .error .badWord

def number (negative : Bool) (s : List UInt8) : Except Error (Scalar × List UInt8) :=
  match numberText negative s with
  | .error .cut => .error .endOfValue
  | .error .malformed => .error .badNumber
  | .ok (t, r) => t.value.map fun n => (.number n, r)

def scalar (b : UInt8) : Reader Scalar := fun r =>
  if b = Ascii.quote then (stringText r).map fun (t, r) => (.string t, r)
  else if b = Ascii.minus then number true r
  else if (Ascii.digit? b).isSome then number false (b :: r)
  else if b = 0x6E then word .null [0x75, 0x6C, 0x6C] r
  else if b = 0x74 then word (.bool true) [0x72, 0x75, 0x65] r
  else if b = 0x66 then word (.bool false) [0x61, 0x6C, 0x73, 0x65] r
  else .error .noValue

def start : Reader Start := fun s =>
  match skipSpace s with
  | [] => .error .endOfValue
  | Ascii.openBracket :: r => .ok (.array, r)
  | Ascii.openBrace :: r => .ok (.object, r)
  | b :: r => (scalar b r).map fun (s, r) => (.scalar s, r)

inductive Turn where
  | next (s : List UInt8)
  | close (s : List UInt8)

def elementTurn (first : Bool) (s : List UInt8) : Except Error Turn :=
  match skipSpace s with
  | [] => .error .endOfArray
  | b :: r =>
    if b = Ascii.closeBracket then .ok (.close r)
    else if first then .ok (.next (b :: r))
    else if b = Ascii.comma then
      match skipSpace r with
      | [] => .error .endOfValue
      | c :: t => if c = Ascii.closeBracket then .error .trailingComma else .ok (.next (c :: t))
    else .error .noCommaInArray

def memberTurn (first : Bool) (s : List UInt8) : Except Error Turn :=
  match skipSpace s with
  | [] => .error .endOfObject
  | b :: r =>
    if b = Ascii.closeBrace then .ok (.close r)
    else if first then if b = Ascii.quote then .ok (.next r) else .error .keyNotString
    else if b = Ascii.comma then
      match skipSpace r with
      | [] => .error .endOfValue
      | c :: t =>
        if c = Ascii.quote then .ok (.next t)
        else if c = Ascii.closeBrace then .error .trailingComma
        else .error .keyNotString
    else .error .noCommaInObject

def afterColon (s : List UInt8) : Except Error (List UInt8) :=
  match skipSpace s with
  | [] => .error .endOfObject
  | b :: r => if b = Ascii.colon then .ok r else .error .noColon

/-- Reads the elements behind an open bracket. Each takes a byte at least, so that a text has been
used up when as many as it has bytes were read. -/
def elements {α : Type} (item : Reader α) : Nat → Bool → Reader (List α)
  | 0, _, _ => .error .endOfArray
  | n + 1, first, s => do
    match ← elementTurn first s with
    | .close r => .ok ([], r)
    | .next s =>
      let (v, r) ← item s
      let (vs, r) ← elements item n false r
      .ok (v :: vs, r)

def members {σ : Type} (step : σ → String → Reader σ) : Nat → Bool → σ → Reader σ
  | 0, _, _, _ => .error .endOfObject
  | n + 1, first, x, s => do
    match ← memberTurn first s with
    | .close r => .ok (x, r)
    | .next s =>
      let (name, r) ← stringText s
      let (y, r) ← step x name r
      members step n false y r

def arrayOfItems {α : Type} (item : Reader α) : Reader (List α) := fun s =>
  elements item (s.length + 1) true s

def objectOfMembers {σ : Type} (step : σ → String → Reader σ) (x : σ) : Reader σ := fun s =>
  members step (s.length + 1) true x s

def addMember (value : Reader Value) (ms : List (String × Value)) (name : String) :
    Reader (List (String × Value)) := fun s => do
  let (v, r) ← value (← afterColon s)
  .ok (Dictionary.insert name v ms, r)

def valueBy (array object : Reader Value) : Reader Value := fun s => do
  match ← start s with
  | (.scalar v, r) => .ok (.scalar v, r)
  | (.array, r) => array r
  | (.object, r) => object r

def value : Nat → Reader Value
  | 0 => valueBy (fun _ => .error .tooDeep) (fun _ => .error .tooDeep)
  | depth + 1 =>
    valueBy
      (fun s => (arrayOfItems (value depth) s).map fun (vs, r) => (.array vs, r))
      (fun s => (objectOfMembers (addMember (value depth)) [] s).map fun (ms, r) => (.object ms, r))

def depthLimit : Nat := 127

def mismatch (expected : String) (s : List UInt8) : Error :=
  match start s with
  | .error e => e
  | .ok (.scalar v, _) => .wrongType (.scalar v) expected
  | .ok (.array, _) => .wrongType .sequence expected
  | .ok (.object, _) => .wrongType .map expected

def string : Reader String := fun s =>
  match start s with
  | .ok (.scalar (.string t), r) => .ok (t, r)
  | _ => .error (mismatch "a string" s)

def real : Reader Float := fun s =>
  match start s with
  | .ok (.scalar (.number n), r) => .ok (n.toFloat, r)
  | _ => .error (mismatch "f64" s)

def boolean : Reader Bool := fun s =>
  match start s with
  | .ok (.scalar (.bool b), r) => .ok (b, r)
  | _ => .error (mismatch "a boolean" s)

def integer : Reader Int32 := fun s =>
  match start s with
  | .ok (.scalar (.number (.integer i)), r) =>
    if -0x80000000 ≤ i.val ∧ i.val < 0x80000000 then .ok (.ofInt i.val, r) else .error (mismatch "i32" s)
  | _ => .error (mismatch "i32" s)

def optional {α : Type} (read : Reader α) : Reader (Option α) := fun s =>
  match start s with
  | .ok (.scalar .null, r) => .ok (none, r)
  | _ => (read s).map fun (x, r) => (some x, r)

def list {α : Type} (item : Reader α) : Reader (List α) := fun s =>
  match start s with
  | .ok (.array, r) => arrayOfItems item r
  | _ => .error (mismatch "a sequence" s)

def document {α : Type} (read : Reader α) (s : List UInt8) : Except Error α := do
  let (x, r) ← read s
  if skipSpace r = [] then .ok x else .error .trailingText

end BearerCheck.Json
