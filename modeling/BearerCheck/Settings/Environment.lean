import BearerCheck.Text.Utf8

/-!
Variables of the environment, and references to them in a text. What a variable holds is put in the
place of its reference and is not looked at again.
-/

namespace BearerCheck

abbrev Environment := String → Option (List UInt8)

def Environment.text? (e : Environment) (name : String) : Option String :=
  (e name).bind Text.Utf8.decode

namespace Reference

def startsName (c : Char) : Bool := ('A' ≤ c && c ≤ 'Z') || c = '_'

def continuesName (c : Char) : Bool := startsName c || c.isDigit

theorem startsName_iff {c : Char} : startsName c = true ↔ c.isUpper = true ∨ c = '_' := by
  have hupper : c.isUpper = true ↔ 'A' ≤ c ∧ c ≤ 'Z' :=
    decide_eq_true_iff
  simp [startsName, hupper]

theorem continuesName_iff {c : Char} :
    continuesName c = true ↔ c.isUpper = true ∨ c = '_' ∨ c.isDigit = true := by
  rw [continuesName, Bool.or_eq_true, startsName_iff, or_assoc]

def name? : List Char → Option (List Char)
  | '$' :: '\x7b' :: c :: r =>
    if startsName c ∧ (r.dropWhile continuesName).head? = some '\x7d' then
      some (c :: r.takeWhile continuesName)
    else none
  | _ => none

inductive Piece where
  | char (c : Char)
  | reference (name : List Char)
  deriving DecidableEq, Repr

def Piece.write : Piece → List Char
  | .char c => [c]
  | .reference name => '$' :: '\x7b' :: name ++ ['\x7d']

/-- The pieces of a text, of which the first `skip` characters belong to a reference before it. -/
def piecesFrom : Nat → List Char → List Piece
  | _, [] => []
  | skip + 1, _ :: r => piecesFrom skip r
  | 0, c :: r =>
    match name? (c :: r) with
    | some name => .reference name :: piecesFrom (name.length + 2) r
    | none => .char c :: piecesFrom 0 r

def pieces (text : List Char) : List Piece := piecesFrom 0 text

def Piece.value (e : Environment) : Piece → Except String (List Char)
  | .char c => .ok [c]
  | .reference name =>
    match e.text? (String.ofList name) with
    | some text => .ok text.toList
    | none => .error (String.ofList name)

def valueOf (e : Environment) : List Piece → Except String (List Char)
  | [] => .ok []
  | p :: ps => do
    let text ← p.value e
    return text ++ (← valueOf e ps)

def substitute (e : Environment) (text : String) : Except String String :=
  (valueOf e (pieces text.toList)).map String.ofList

end Reference

end BearerCheck
