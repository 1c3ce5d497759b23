namespace BearerCheck.Text.Unsigned

def digit? (base : Nat) (c : Char) : Option Nat :=
  let value :=
    if c.isDigit then c.toNat - 48
    else if 'a' ≤ c ∧ c ≤ 'z' then c.toNat - 87
    else if 'A' ≤ c ∧ c ≤ 'Z' then c.toNat - 55
    else base
  if value < base then some value else none

def read? (base : Nat) (ds : List Char) : Option UInt64 := do
  let ns ← ds.mapM (digit? base)
  let n := ns.foldl (fun n d => base * n + d) 0
  if ds = [] ∨ UInt64.size ≤ n then none else some (.ofNat n)

def dropPlus : List Char → List Char
  | '+' :: ds => ds
  | ds => ds

end BearerCheck.Text.Unsigned
