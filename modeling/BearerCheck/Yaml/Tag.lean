import BearerCheck.Text.Utf8
import BearerCheck.Url.Percent
import BearerCheck.Yaml.Character

namespace BearerCheck.Yaml

def handle? (directive : Bool) : List Char → Option (List Char × List Char)
  | '!' :: r =>
    let w := r.takeWhile isWord
    match r.dropWhile isWord with
    | '!' :: t => some ('!' :: w ++ ['!'], t)
    | t => if directive ∧ w ≠ [] then none else some ('!' :: w, t)
  | _ => none

def isUri (c : Char) : Bool := isWord c || c ∈ ";/?:@&=+$.%!~*'()".toList

def width? (b : Nat) : Option Nat :=
  if b < 0x80 then some 1
  else if b / 0x20 = 6 then some 2
  else if b / 0x10 = 14 then some 3
  else if b / 0x08 = 30 then some 4
  else none

def escapedByte? : List Char → Option Nat
  | '%' :: a :: b :: _ => if isHex a ∧ isHex b then some (16 * hexValue a + hexValue b) else none
  | _ => none

def areTail (s : List Char) : Nat → Bool
  | 0 => true
  | n + 1 =>
    match escapedByte? s with
    | some b => b / 0x40 = 2 && areTail (s.drop 3) n
    | none => false

def escapeWidth? (s : List Char) : Option Nat := do
  let b ← escapedByte? s
  let n ← width? b
  if areTail (s.drop 3) (n - 1) then some (3 * n) else none

/-- The characters of a URI, of which the first `skip` have been checked. Inside angle brackets
`more` of them are allowed. -/
def uri? (more : List Char) : Nat → List Char → Option (List Char × List Char)
  | _, [] => some ([], [])
  | skip + 1, c :: r => (uri? more skip r).map fun (t, rest) => (c :: t, rest)
  | 0, c :: r =>
    if c = '%' then
      match escapeWidth? (c :: r) with
      | some n => (uri? more (n - 1) r).map fun (t, rest) => (c :: t, rest)
      | none => none
    else if isUri c ∨ c ∈ more then (uri? more 0 r).map fun (t, rest) => (c :: t, rest)
    else some ([], c :: r)

def inBrackets : List Char := [',', '[', ']']

def unescape (s : List Char) : String :=
  let text := String.ofList s
  (Text.Utf8.decode (Url.Percent.decode (Text.Utf8.encode text))).getD text

structure Tag where
  handle : Option String
  suffix : String
  deriving DecidableEq, Repr

def Tag.name? (handles : List (String × String)) (t : Tag) : Option String :=
  match t.handle with
  | some h => (handles.lookup h).map (· ++ t.suffix)
  | none => some t.suffix

def tag? (flow : Bool) (s : List Char) : Option (Tag × List Char) := do
  let (tag, r) ←
    match s with
    | '!' :: '<' :: r => do
      let (u, r) ← uri? inBrackets 0 r
      match u, r with
      | _ :: _, '>' :: r => some (⟨none, unescape u⟩, r)
      | _, _ => none
    | _ => do
      let (h, r) ← handle? false s
      let (u, t) ← uri? [] 0 r
      if 1 < h.length ∧ h.getLast? = some '!' then
        if u = [] then none else some (⟨some (String.ofList h), unescape u⟩, t)
      else if h.length + u.length = 1 then some (⟨none, "!"⟩, t)
      else some (⟨some "!", unescape (h.tail ++ u)⟩, t)
  if endsWord r ∨ (flow ∧ r.head? = some ',') then some (tag, r) else none

inductive Directive where
  | version (major minor : Nat)
  | tag (handle stem : String)
  deriving DecidableEq, Repr

def number? (s : List Char) : Option (Nat × List Char) :=
  let ds := s.takeWhile Char.isDigit
  if ds = [] ∨ 9 < ds.length then none
  else some (ds.foldl (fun n c => 10 * n + (c.toNat - 48)) 0, s.dropWhile Char.isDigit)

def directive? (s : List Char) : Option (Directive × List Char) := do
  let name := String.ofList (s.takeWhile isWord)
  let r := s.dropWhile isWord
  if name = "" ∨ !endsWord r then none
  else if name = "YAML" then
    let (major, r) ← number? (skipBlanks r)
    match r with
    | '.' :: r =>
      let (minor, r) ← number? r
      some (.version major minor, ← restOfLine? r)
    | _ => none
  else if name = "TAG" then
    let (h, r) ← handle? true (skipBlanks r)
    if (r.head?.map isBlank).getD false then
      let (u, r) ← uri? inBrackets 0 (skipBlanks r)
      if u = [] ∨ !endsWord r then none
      else some (.tag (String.ofList h) (unescape u), ← restOfLine? r)
    else none
  else none

end BearerCheck.Yaml
