namespace BearerCheck.Yaml

def isAllowed (c : Char) : Bool :=
  c = '\t' || c = '\n' || c = '\r' || (0x20 ≤ c.toNat && c.toNat ≤ 0x7E) || c.toNat = 0x85 ||
    (0xA0 ≤ c.toNat && c.toNat ≤ 0xFFFD) || 0x10000 ≤ c.toNat

def unifyBreaks : List Char → List Char
  | [] => []
  | '\r' :: '\n' :: r => '\n' :: unifyBreaks r
  | c :: r => (if c = '\r' ∨ c = '\x85' then '\n' else c) :: unifyBreaks r

def isBreak (c : Char) : Bool := c = '\n' || c = '\u2028' || c = '\u2029'

def isBlank (c : Char) : Bool := c = ' ' || c = '\t'

def endsWord : List Char → Bool
  | [] => true
  | c :: _ => isBlank c || isBreak c

def isWord (c : Char) : Bool := c.isAlphanum || c = '-' || c = '_'

def atMarker : List Char → Bool
  | a :: b :: c :: r => a = b && b = c && (a = '-' || a = '.') && endsWord r
  | _ => false

def isHex (c : Char) : Bool := c.isDigit || ('a' ≤ c && c ≤ 'f') || ('A' ≤ c && c ≤ 'F')

def hexValue (c : Char) : Nat :=
  if c.isDigit then c.toNat - 48 else if 'a' ≤ c then c.toNat - 87 else c.toNat - 55

structure Mark where
  /-- How many bytes stand before it. -/
  index : Nat
  line : Nat
  column : Nat
  deriving DecidableEq, Repr

def Mark.next (m : Mark) (c : Char) : Mark :=
  if isBreak c then ⟨m.index + c.utf8Size, m.line + 1, 0⟩
  else ⟨m.index + c.utf8Size, m.line, m.column + 1⟩

def Mark.after (m : Mark) (s : List Char) : Mark := s.foldl Mark.next m

def isLineMark (column : Nat) (c : Char) : Bool := column = 0 && c = '\uFEFF'

/-- Passes over blanks, comments and line ends. In block context a new line may start a key, and a
tab may not stand where a key may start. Tells also whether one may start in the end. -/
def skipIgnored (flow : Bool) : Nat → Bool → Bool → List Char → List Char × Bool
  | _, allowed, _, [] => ([], allowed)
  | column, allowed, comment, c :: r =>
    if isBreak c then skipIgnored flow 0 (allowed || !flow) false r
    else if comment then skipIgnored flow (column + 1) allowed true r
    else if c = ' ' ∨ (c = '\t' ∧ (flow ∨ !allowed)) ∨ isLineMark column c then
      skipIgnored flow (column + 1) allowed false r
    else if c = '#' then skipIgnored flow (column + 1) allowed true r
    else (c :: r, allowed)

def skipBlanks (s : List Char) : List Char := s.dropWhile isBlank

def restOfLine? (s : List Char) : Option (List Char) :=
  match skipBlanks s with
  | [] => some []
  | c :: r =>
    if c = '#' then some ((r.dropWhile (!isBreak ·)).tail)
    else if isBreak c then some r
    else none

end BearerCheck.Yaml
