import BearerCheck.Json.Reader

/-!
Passing over a value that nobody needs. It may be nested to any depth, its numbers may have any size
and its strings need not be texts.
-/

namespace BearerCheck.Json

open Text

inductive Bracket where
  | array
  | object
  deriving DecidableEq

def skimNumber (s : List UInt8) : Except Error (List UInt8) :=
  match numberText false s with
  | .error _ => .error .badNumber
  | .ok (_, r) => .ok r

def skimScalar (b : UInt8) (r : List UInt8) : Except Error (List UInt8) :=
  if b = Ascii.quote then skimString .plain r
  else if b = Ascii.minus then skimNumber r
  else if (Ascii.digit? b).isSome then skimNumber (b :: r)
  else (scalar b r).map (·.2)

def skimName (s : List UInt8) : Except Error (List UInt8) := do
  match skipSpace s with
  | [] => .error .endOfObject
  | Ascii.quote :: r => afterColon (← skimString .plain r)
  | _ => .error .keyNotString

inductive Place where
  | value
  | opened
  | after

def skimTo : Nat → Place → List Bracket → List UInt8 → Except Error (List UInt8)
  | 0, _, _, _ => .error .endOfValue
  | n + 1, .value, outer, s =>
    match skipSpace s with
    | [] => .error .endOfValue
    | Ascii.openBracket :: r => skimTo n .opened (.array :: outer) r
    | Ascii.openBrace :: r => skimTo n .opened (.object :: outer) r
    | b :: r => do skimTo n .after outer (← skimScalar b r)
  | n + 1, .opened, outer, s =>
    match outer, skipSpace s with
    | .array :: _, [] => .error .endOfArray
    | .array :: rest, Ascii.closeBracket :: r => skimTo n .after rest r
    | .object :: _, [] => .error .endOfObject
    | .object :: rest, Ascii.closeBrace :: r => skimTo n .after rest r
    | .object :: _, t => do skimTo n .value outer (← skimName t)
    | _, t => skimTo n .value outer t
  | n + 1, .after, outer, s =>
    match outer, skipSpace s with
    | [], _ => .ok s
    | .array :: _, [] => .error .endOfArray
    | .array :: _, Ascii.comma :: r => skimTo n .value outer r
    | .array :: rest, Ascii.closeBracket :: r => skimTo n .after rest r
    | .array :: _, _ => .error .noCommaInArray
    | .object :: _, [] => .error .endOfObject
    | .object :: _, Ascii.comma :: r => do skimTo n .value outer (← skimName r)
    | .object :: rest, Ascii.closeBrace :: r => skimTo n .after rest r
    | .object :: _, _ => .error .noCommaInObject

/-- Each step but the last takes a byte or goes from an open bracket to the value behind it. -/
def skim (s : List UInt8) : Except Error (List UInt8) := skimTo (2 * s.length + 2) .value [] s

end BearerCheck.Json
