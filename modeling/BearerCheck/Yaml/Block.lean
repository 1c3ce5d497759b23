import BearerCheck.Yaml.Character

namespace BearerCheck.Yaml.Block

inductive Chomping where
  | strip
  | clip
  | keep
  deriving DecidableEq, Repr

structure Heading where
  chomping : Chomping
  increment : Option Nat
  deriving DecidableEq, Repr

def chomping? (c : Char) : Option Chomping :=
  if c = '+' then some .keep else if c = '-' then some .strip else none

def increment? : List Char → Option (Option Nat × List Char)
  | [] => some (none, [])
  | c :: r =>
    if c = '0' then none
    else if c.isDigit then some (some (c.toNat - 48), r)
    else some (none, c :: r)

def heading? (s : List Char) : Option (Heading × List Char) :=
  match s.head?.bind chomping? with
  | some h => do
    let (n, r) ← increment? s.tail
    some (⟨h, n⟩, r)
  | none => do
    let (n, r) ← increment? s
    match n, r.head?.bind chomping? with
    | some _, some h => some (⟨h, n⟩, r.tail)
    | _, _ => some (⟨.clip, n⟩, r)

/-- Where the reader of a block stands: what has been written, last first, the line end behind it
and the empty lines after that. An indentation of zero is not known yet. -/
structure State where
  indent : Nat
  deepest : Nat
  column : Nat
  inLine : Bool
  written : List Char
  lineEnd : List Char
  empty : List Char
  startsBlank : Bool

def State.settle (least : Nat) (s : State) : State :=
  if s.indent = 0 then { s with indent := max (max s.deepest s.column) (max least 1) } else s

def State.startLine (literal : Bool) (c : Char) (s : State) : State :=
  let joins := !literal && s.lineEnd = ['\n'] && !s.startsBlank && !isBlank c
  let gap := (if joins then if s.empty = [] then [' '] else [] else s.lineEnd) ++ s.empty
  { s with
    inLine := true
    written := c :: (gap.reverse ++ s.written)
    lineEnd := []
    empty := []
    startsBlank := isBlank c }

def State.finish (chomping : Chomping) (s : State) : List Char :=
  let tail := match chomping with
    | .strip => []
    | .clip => s.lineEnd
    | .keep => s.lineEnd ++ s.empty
  s.written.reverse ++ tail

def lines? (literal : Bool) (least : Nat) (chomping : Chomping) :
    State → List Char → Option (List Char × List Char)
  | s, [] => some (s.finish chomping, [])
  | s, c :: r =>
    if s.inLine then
      if isBreak c then
        lines? literal least chomping { s with inLine := false, column := 0, lineEnd := [c] } r
      else lines? literal least chomping { s with written := c :: s.written } r
    else if (s.indent = 0 ∨ s.column < s.indent) ∧ c = ' ' then
      lines? literal least chomping { s with column := s.column + 1 } r
    else if (s.indent = 0 ∨ s.column < s.indent) ∧ c = '\t' then none
    else if isBreak c then
      lines? literal least chomping
        { s with deepest := max s.deepest s.column, column := 0, empty := s.empty ++ [c] } r
    else
      let s := s.settle least
      if s.column = s.indent then lines? literal least chomping (s.startLine literal c) r
      else some (s.finish chomping, c :: r)

def read? (literal : Bool) (indent : Int) (s : List Char) : Option (List Char × List Char) := do
  let (h, r) ← heading? s
  let r ← restOfLine? r
  let start := match h.increment with
    | some n => (max indent 0).toNat + n
    | none => 0
  lines? literal (indent + 1).toNat h.chomping ⟨start, 0, 0, false, [], [], [], false⟩ r

end BearerCheck.Yaml.Block
