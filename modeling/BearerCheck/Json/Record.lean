import BearerCheck.Json.Skim

namespace BearerCheck.Json

open Text

structure Member (σ : Type) where
  name : String
  read : σ → Reader σ

structure Record (σ : Type) where
  title : String
  known : List (Member σ)
  other : σ → String → Reader σ
  /-- Whether the members may also be given as the elements of an array, in their order. -/
  positional : Bool

def ignore {σ : Type} (x : σ) (_ : String) : Reader σ := fun s => do
  .ok (x, ← skim (← afterColon s))

namespace Record

variable {σ : Type}

def member? (d : Record σ) (name : String) : Option (Member σ) :=
  d.known.find? fun m => m.name = name

/-- Reads one member from behind its name. Beside what has been read stand the known names met. -/
def step (d : Record σ) (x : List String × σ) (name : String) : Reader (List String × σ) := fun s =>
  match d.member? name with
  | some f =>
    if name ∈ x.1 then .error (.duplicate name)
    else do
      let (y, r) ← f.read x.2 (← afterColon s)
      .ok ((name :: x.1, y), r)
  | none => do
    let (y, r) ← d.other x.2 name s
    .ok ((x.1, y), r)

def closeArray (s : List UInt8) : Except Error (List UInt8) :=
  match skipSpace s with
  | [] => .error .endOfArray
  | b :: r =>
    if b = Ascii.closeBracket then .ok r
    else if b = Ascii.comma ∧ (skipSpace r).head? = some Ascii.closeBracket then
      .error .trailingComma
    else .error .trailingText

def inOrder : Bool → σ → List (Member σ) → Reader σ
  | _, x, [], s => do .ok (x, ← closeArray s)
  | first, x, f :: fs, s => do
    match ← elementTurn first s with
    | .close r => .ok (x, r)
    | .next s =>
      let (y, r) ← f.read x s
      inOrder false y fs r

def read (d : Record σ) (x : σ) : Reader σ := fun s =>
  match start s with
  | .ok (.object, r) => (objectOfMembers d.step ([], x) r).map fun (y, r) => (y.2, r)
  | .ok (.array, r) => if d.positional then inOrder true x d.known r
    else .error (mismatch d.title s)
  | _ => .error (mismatch d.title s)

end Record

end BearerCheck.Json
