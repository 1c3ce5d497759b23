/-!
Sets of code points as ascending ranges. The rows of a table write them down as hexadecimal
numbers: for each range its distance from the end of the one before, and the distance from its first
point to its last. If the ranges have values, the value of each follows.
-/

namespace BearerCheck.Text.Ranges

def hexValue (digits : String) : Nat :=
  digits.toList.foldl (fun n c => 16 * n + (if c.isDigit then c.toNat - 48 else c.toNat - 87)) 0

def numbers (rows : List String) : List Nat :=
  rows.flatMap fun row => (row.splitOn " ").map hexValue

def ofGaps (last : Nat) : List Nat → List (Nat × Nat)
  | gap :: width :: r => (last + gap, last + gap + width) :: ofGaps (last + gap + width) r
  | _ => []

def read (rows : List String) : List (Nat × Nat) := ofGaps 0 (numbers rows)

def contains (ranges : List (Nat × Nat)) (n : Nat) : Bool :=
  ranges.any fun r => r.1 ≤ n && n ≤ r.2

structure Valued where
  first : Nat
  last : Nat
  value : Nat
  deriving DecidableEq, Repr

def ofValuedGaps (last : Nat) : List Nat → List Valued
  | gap :: width :: value :: r =>
    ⟨last + gap, last + gap + width, value⟩ :: ofValuedGaps (last + gap + width) r
  | _ => []

def readValued (rows : List String) : List Valued := ofValuedGaps 0 (numbers rows)

def find? (table : List Valued) (n : Nat) : Option Valued :=
  table.find? fun r => r.first ≤ n && n ≤ r.last

end BearerCheck.Text.Ranges
