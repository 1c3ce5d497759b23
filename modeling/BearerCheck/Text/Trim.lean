import BearerCheck.Text.Ascii

namespace BearerCheck.Text

def trim {α : Type} (blank : α → Bool) (xs : List α) : List α :=
  ((xs.dropWhile blank).reverse.dropWhile blank).reverse

def middleStart {α : Type} (blank : α → Bool) (xs : List α) : Nat :=
  (xs.findIdx? (!blank ·)).getD xs.length

def middleStop {α : Type} (blank : α → Bool) (xs : List α) : Nat :=
  ((xs.reverse.findIdx? (!blank ·)).map (xs.length - ·)).getD (middleStart blank xs)

def middle {α : Type} (blank : α → Bool) (xs : List α) : List α :=
  xs.extract (middleStart blank xs) (middleStop blank xs)

def isLineBlank (b : UInt8) : Bool :=
  b = 0x20 || b = 0x09 || b = 0x0A || b = 0x0C || b = 0x0D

theorem isLineBlank_iff {b : UInt8} :
    isLineBlank b = true ↔
      b ∈ [Ascii.space, Ascii.tab, Ascii.lineFeed, Ascii.formFeed, Ascii.carriageReturn] := by
  simp [isLineBlank, Ascii.space, Ascii.tab, Ascii.lineFeed, Ascii.formFeed, Ascii.carriageReturn,
    or_assoc]

/-- The property White_Space of Unicode. -/
def isBlank (c : Char) : Bool :=
  (0x09 ≤ c.toNat && c.toNat ≤ 0x0D) || c.toNat = 0x20 || c.toNat = 0x85 || c.toNat = 0xA0 ||
    c.toNat = 0x1680 || (0x2000 ≤ c.toNat && c.toNat ≤ 0x200A) || c.toNat = 0x2028 ||
    c.toNat = 0x2029 || c.toNat = 0x202F || c.toNat = 0x205F || c.toNat = 0x3000

def trimBlank (s : String) : String := String.ofList (trim isBlank s.toList)

end BearerCheck.Text
