import BearerCheck.Yaml.Character

/-!
Scalars that go on over line ends: plain ones and quoted ones. A single line end between words is a
space, and of several the first is left out.
-/

namespace BearerCheck.Yaml

structure Gap where
  blanks : List Char
  broken : Bool
  first : List Char
  others : List Char

namespace Gap

def none : Gap := ⟨[], false, [], []⟩

def escaped : Gap := ⟨[], true, [], []⟩

def isNone (g : Gap) : Bool := g.blanks.isEmpty && !g.broken

def addBlank (g : Gap) (c : Char) : Gap :=
  if g.broken then g else { g with blanks := g.blanks ++ [c] }

def addBreak (g : Gap) (c : Char) : Gap :=
  if g.broken then { g with others := g.others ++ [c] } else ⟨[], true, [c], []⟩

def text (g : Gap) : List Char :=
  if g.broken then
    if g.first = ['\n'] then if g.others = [] then [' '] else g.others
    else g.first ++ g.others
  else g.blanks

end Gap

structure Scanned where
  text : List Char
  rest : List Char
  broken : Bool

def Scanned.prepend (front : List Char) (s : Scanned) : Scanned :=
  { s with text := front ++ s.text }

def endsPlain (flow : Bool) (c : Char) (r : List Char) : Bool :=
  (c = ':' && endsWord r) || (flow && c ∈ [',', '[', ']', '\x7b', '\x7d'])

def strayColon (flow : Bool) (c : Char) (r : List Char) : Bool :=
  flow && c = ':' &&
    match r with
    | d :: _ => d ∈ [',', '?', '[', ']', '\x7b', '\x7d']
    | [] => false

/-- A plain scalar from a word on, or from inside one if `inWord`. It ends at a line that is not
indented enough. -/
def plain? (flow : Bool) (indent : Int) : Bool → Nat → Gap → List Char → Option Scanned
  | _, _, g, [] => some ⟨[], [], g.broken⟩
  | inWord, column, g, c :: r =>
    if isBlank c then
      if g.broken ∧ column < indent ∧ c = '\t' then none
      else plain? flow indent false (column + 1) (g.addBlank c) r
    else if isBreak c then plain? flow indent false 0 (g.addBreak c) r
    else if !inWord ∧ ((!flow ∧ !g.isNone ∧ column < indent) ∨
        (column = 0 ∧ atMarker (c :: r)) ∨ c = '#') then
      some ⟨[], c :: r, g.broken⟩
    else if strayColon flow c r then none
    else if endsPlain flow c r then some ⟨[], c :: r, g.broken⟩
    else (plain? flow indent true (column + 1) .none r).map (.prepend (g.text ++ [c]))

def escape? (c : Char) : Option Char :=
  match c with
  | '0' => some '\x00'
  | 'a' => some '\x07'
  | 'b' => some '\x08'
  | 't' | '\t' => some '\t'
  | 'n' => some '\n'
  | 'v' => some '\x0B'
  | 'f' => some '\x0C'
  | 'r' => some '\r'
  | 'e' => some '\x1B'
  | ' ' | '"' | '/' | '\\' => some c
  | 'N' => some '\x85'
  | '_' => some '\xA0'
  | 'L' => some '\u2028'
  | 'P' => some '\u2029'
  | _ => none

def escapeLength? (c : Char) : Option Nat :=
  match c with
  | 'x' => some 2
  | 'u' => some 4
  | 'U' => some 8
  | _ => none

def charOf? (n : Nat) : Option Char := if h : n.isValidChar then some (Char.ofNatAux n h) else none

inductive DoubleState where
  | text
  | escape
  | digits (missing : Nat) (value : Nat)

def double? : DoubleState → Nat → Gap → List Char → Option (List Char × List Char)
  | _, _, _, [] => none
  | .text, column, g, c :: r =>
    if isBlank c then double? .text (column + 1) (g.addBlank c) r
    else if isBreak c then double? .text 0 (g.addBreak c) r
    else if column = 0 ∧ atMarker (c :: r) then none
    else if c = '"' then some (g.text, r)
    else
      (if c = '\\' then double? .escape (column + 1) .none r
        else (double? .text (column + 1) .none r).map fun (t, rest) => (c :: t, rest)).map
      fun (t, rest) => (g.text ++ t, rest)
  | .escape, column, _, c :: r =>
    if isBreak c then double? .text 0 .escaped r
    else
      match escape? c, escapeLength? c with
      | some d, _ => (double? .text (column + 1) .none r).map fun (t, rest) => (d :: t, rest)
      | none, some n => double? (.digits n 0) (column + 1) .none r
      | none, none => none
  | .digits missing value, column, _, c :: r =>
    if !isHex c then none
    else
      let value := 16 * value + hexValue c
      if 1 < missing then double? (.digits (missing - 1) value) (column + 1) .none r
      else
        match charOf? value with
        | some d => (double? .text (column + 1) .none r).map fun (t, rest) => (d :: t, rest)
        | none => none

/-- A text between single quotation marks, from behind the first. With `quote` one has just been
read, which ends the text unless another follows. -/
def single? (quote : Bool) (column : Nat) (g : Gap) : List Char → Option (List Char × List Char)
  | [] => if quote then some ([], []) else none
  | c :: r =>
    if quote then
      if c = '\'' then (single? false (column + 1) .none r).map fun (t, rest) => (c :: t, rest)
      else some ([], c :: r)
    else if isBlank c then single? false (column + 1) (g.addBlank c) r
    else if isBreak c then single? false 0 (g.addBreak c) r
    else if column = 0 ∧ atMarker (c :: r) then none
    else
      (if c = '\'' then single? true (column + 1) .none r
        else (single? false (column + 1) .none r).map fun (t, rest) => (c :: t, rest)).map
      fun (t, rest) => (g.text ++ t, rest)

end BearerCheck.Yaml
