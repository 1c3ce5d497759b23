import BearerCheck.Domain.Direction
import BearerCheck.Domain.Joiner
import BearerCheck.Domain.Mapping
import BearerCheck.Domain.Punycode
import BearerCheck.Text.Composition

namespace BearerCheck.Domain

open Text

def isForbidden (c : Char) : Bool :=
  c.toNat ≤ 0x20 || c.toNat = 0x7F ||
    c ∈ ['%', '#', '/', ':', '<', '>', '?', '@', '[', '\\', ']', '^', '|']

def isAscii (c : Char) : Bool := c.toNat < 0x80

def labels (name : List Char) : List (List Char) :=
  match name with
  | [] => [[]]
  | c :: r =>
    match labels r with
    | l :: ls => if c = '.' then [] :: l :: ls else (c :: l) :: ls
    | [] => [[c]]

def mark : List Char := "xn--".toList

def isEncoded (label : List Char) : Bool := mark.isPrefixOf label

def longestPlain : Nat := 1000
def longestEncoded : Nat := 2000

def isValid (label : List Char) : Bool :=
  label.all Mapping.isStable && !label.head?.any CombiningMark.isMark && !isEncoded label &&
    Joiner.arePlaced [] label

def decode? (label : List Char) : Option (List Char) := do
  let digits := label.drop mark.length
  if longestEncoded < digits.length then none
  else
    let text ← Punycode.decode? digits
    if text.all isAscii ∨ Composition.normalize text ≠ text then none else some text

def characters? (label : List Char) : Option (List Char) := do
  let text ← if isEncoded label then decode? label else some label
  if text.all isAscii ∨ isValid text then some text else none

def encode? (label : List Char) : Option (List Char) :=
  if label.all isAscii then some label
  else if longestPlain < label.length then none
  else some (mark ++ Punycode.encode label)

def mapped? (name : List Char) : Option (List Char) := do
  return Composition.normalize (← name.mapM Mapping.map?).flatten

def anyName? (name : List Char) : Option (List Char) := do
  let plain ← (labels (← mapped? name)).mapM characters?
  if Direction.areUniform plain then
    return ['.'].intercalate (← plain.mapM encode?)
  else none

def toAscii? (name : List Char) : Option (List Char) := do
  let lower := name.map Char.toLower
  let ascii ←
    if lower.all isAscii ∧ !(labels lower).any isEncoded then some lower else anyName? name
  if ascii.any isForbidden then none else some ascii

end BearerCheck.Domain
