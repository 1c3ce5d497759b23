/-!
JSON values. Integers that fit a 64-bit word, signed or not, are kept exactly; all other numbers are
binary64. The members of an object are in ascending order of their names.
-/

namespace BearerCheck.Json

abbrev Integer := { i : Int // -0x8000000000000000 ≤ i ∧ i < 0x10000000000000000 }

inductive Number where
  | integer (i : Integer)
  | real (x : Float)
  deriving DecidableEq

def Number.toFloat : Number → Float
  | .integer i => Float.ofInt i.val
  | .real x => x

inductive Scalar where
  | null
  | bool (b : Bool)
  | number (n : Number)
  | string (s : String)
  deriving DecidableEq

inductive Value where
  | scalar (s : Scalar)
  | array (elements : List Value)
  | object (members : List (String × Value))
  deriving Inhabited

def Value.string? : Value → Option String
  | .scalar (.string s) => some s
  | _ => none

end BearerCheck.Json
