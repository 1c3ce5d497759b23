import BearerCheck.Yaml.Block
import BearerCheck.Yaml.Flow
import BearerCheck.Yaml.Tag

/-!
The tokens of a YAML text. Blocks are opened and closed by their indentation, so that tokens stand
for what is only a column in the text. That a scalar was a key is told by the colon behind it; the
tokens that say so are then put in front of it.
-/

namespace BearerCheck.Yaml

inductive Style where
  | plain
  | quoted
  | literal
  | folded
  deriving DecidableEq, Repr

inductive Token where
  | directive (d : Directive)
  | documentStart
  | documentEnd
  | blockSequence
  | blockMapping
  | blockEnd
  | flowSequence
  | flowSequenceEnd
  | flowMapping
  | flowMappingEnd
  | blockEntry
  | flowEntry
  | key
  | value
  | alias (name : String)
  | anchor (name : String)
  | tag (t : Tag)
  | scalar (text : String) (style : Style)
  deriving DecidableEq, Repr

/-- Where a key may have started. A required one has to be a key: nothing else may stand there. -/
structure PossibleKey where
  place : Nat
  mark : Mark
  required : Bool
  deriving DecidableEq, Repr

structure Lexer where
  rest : List Char
  mark : Mark
  tokens : List Token
  indent : Int
  outerIndents : List Int
  /-- For each open bracket, and for the text around them, where a key may have started. -/
  keys : List (Option PossibleKey)
  keyAllowed : Bool

namespace Lexer

def start (text : List Char) : Lexer := ⟨text, ⟨0, 0, 0⟩, [], -1, [], [none], true⟩

def inFlow (l : Lexer) : Bool := 1 < l.keys.length

def moveTo (l : Lexer) (rest : List Char) : Lexer :=
  { l with
    rest := rest
    mark := l.mark.after (l.rest.take (l.rest.length - rest.length)) }

def emit (l : Lexer) (t : Token) : Lexer := { l with tokens := l.tokens ++ [t] }

def emitAt (l : Lexer) (place : Nat) (t : Token) : Lexer :=
  { l with tokens := l.tokens.take place ++ t :: l.tokens.drop place }

def dropKey? (l : Lexer) : Option Lexer :=
  match l.keys with
  | some k :: ks => if k.required then none else some { l with keys := none :: ks }
  | _ => some l

def noteKey? (l : Lexer) : Option Lexer :=
  if l.keyAllowed then do
    let l ← l.dropKey?
    let k : PossibleKey := ⟨l.tokens.length, l.mark, !l.inFlow && l.indent == l.mark.column⟩
    some { l with keys := some k :: l.keys.tail }
  else some l

def allowKey (l : Lexer) (allowed : Bool) : Lexer := { l with keyAllowed := allowed }

def longestKey : Nat := 1024

def isStale (l : Lexer) (k : PossibleKey) : Bool :=
  k.mark.line < l.mark.line || k.mark.index + longestKey < l.mark.index

def dropStaleKeys? (l : Lexer) : Option Lexer := do
  let keys ← l.keys.mapM fun key =>
    match key with
    | some k => if l.isStale k then if k.required then none else some none else some (some k)
    | none => some none
  some { l with keys := keys }

def openBlock (l : Lexer) (column : Nat) (place : Nat) (t : Token) : Lexer :=
  if !l.inFlow ∧ l.indent < column then
    { l.emitAt place t with indent := column, outerIndents := l.indent :: l.outerIndents }
  else l

def closeTo (l : Lexer) (column : Int) : List Int → Lexer
  | [] => l
  | i :: is =>
    if column < l.indent then
      closeTo { l.emit .blockEnd with indent := i, outerIndents := is } column is
    else l

def closeBlocks (l : Lexer) (column : Int) : Lexer :=
  if l.inFlow then l else l.closeTo column l.outerIndents

def take (l : Lexer) (count : Nat) (t : Token) : Lexer := (l.moveTo (l.rest.drop count)).emit t

def document? (l : Lexer) (t : Token) : Option Lexer := do
  let l ← (l.closeBlocks (-1)).dropKey?
  some ((l.allowKey false).take 3 t)

def directive? (l : Lexer) : Option Lexer := do
  let l ← (l.closeBlocks (-1)).dropKey?
  let (d, r) ← Yaml.directive? l.rest.tail
  some (((l.allowKey false).moveTo r).emit (.directive d))

def openFlow? (l : Lexer) (t : Token) : Option Lexer := do
  let l ← l.noteKey?
  some (({ l with keys := none :: l.keys }.allowKey true).take 1 t)

def closeFlow? (l : Lexer) (t : Token) : Option Lexer := do
  let l ← l.dropKey?
  let keys := if l.inFlow then l.keys.tail else l.keys
  some (({ l with keys := keys }.allowKey false).take 1 t)

def flowEntry? (l : Lexer) : Option Lexer := do
  let l ← l.dropKey?
  some ((l.allowKey true).take 1 .flowEntry)

def blockEntry? (l : Lexer) : Option Lexer :=
  if !l.inFlow ∧ !l.keyAllowed then none
  else do
    let l ← (l.openBlock l.mark.column l.tokens.length .blockSequence).dropKey?
    some ((l.allowKey true).take 1 .blockEntry)

def key? (l : Lexer) : Option Lexer :=
  if !l.inFlow ∧ !l.keyAllowed then none
  else do
    let l ← (l.openBlock l.mark.column l.tokens.length .blockMapping).dropKey?
    some ((l.allowKey (!l.inFlow)).take 1 .key)

def value? (l : Lexer) : Option Lexer :=
  match l.keys with
  | some k :: ks =>
    let l := (l.emitAt k.place .key).openBlock k.mark.column k.place .blockMapping
    some (({ l with keys := none :: ks }.allowKey false).take 1 .value)
  | _ =>
    if !l.inFlow ∧ !l.keyAllowed then none
    else
      let l := l.openBlock l.mark.column l.tokens.length .blockMapping
      some ((l.allowKey (!l.inFlow)).take 1 .value)

def name? (l : Lexer) (make : String → Token) : Option Lexer := do
  let l ← l.noteKey?
  let w := l.rest.tail.takeWhile isWord
  let r := l.rest.tail.dropWhile isWord
  let ends := endsWord r || r.head?.any "?:,]\x7d%@`".toList.contains
  if w = [] ∨ !ends then none
  else some (((l.allowKey false).moveTo r).emit (make (String.ofList w)))

def tag? (l : Lexer) : Option Lexer := do
  let l ← l.noteKey?
  let (t, r) ← Yaml.tag? l.inFlow l.rest
  some (((l.allowKey false).moveTo r).emit (.tag t))

def block? (l : Lexer) (style : Style) : Option Lexer := do
  let l ← l.dropKey?
  let (text, r) ← Block.read? (style = .literal) l.indent l.rest.tail
  some (((l.allowKey true).moveTo r).emit (.scalar (String.ofList text) style))

def quoted? (l : Lexer) (double : Bool) : Option Lexer := do
  let l ← l.noteKey?
  let column := l.mark.column + 1
  let (text, r) ←
    if double then double? .text column .none l.rest.tail
    else single? false column .none l.rest.tail
  some (((l.allowKey false).moveTo r).emit (.scalar (String.ofList text) .quoted))

def plain? (l : Lexer) : Option Lexer := do
  let l ← l.noteKey?
  let s ← Yaml.plain? l.inFlow (l.indent + 1) false l.mark.column .none l.rest
  some (((l.allowKey s.broken).moveTo s.rest).emit (.scalar (String.ofList s.text) .plain))

def indicators : List Char := "-?:,[]\x7b\x7d#&*!|>'\"%@`".toList

def startsPlain (flow : Bool) (c : Char) (r : List Char) : Bool :=
  (c ∉ indicators && !isBlank c) || (c = '-' && !(r.head?.map isBlank).getD false) ||
    (!flow && (c = '?' || c = ':') && !endsWord r)

def token? (l : Lexer) (c : Char) (r : List Char) : Option Lexer :=
  let flow := l.inFlow
  if l.mark.column = 0 ∧ c = '%' then l.directive?
  else if l.mark.column = 0 ∧ atMarker (c :: r) then
    l.document? (if c = '-' then .documentStart else .documentEnd)
  else if c = '[' then l.openFlow? .flowSequence
  else if c = '\x7b' then l.openFlow? .flowMapping
  else if c = ']' then l.closeFlow? .flowSequenceEnd
  else if c = '\x7d' then l.closeFlow? .flowMappingEnd
  else if c = ',' then l.flowEntry?
  else if c = '-' ∧ endsWord r then l.blockEntry?
  else if c = '?' ∧ (flow ∨ endsWord r) then l.key?
  else if c = ':' ∧ (flow ∨ endsWord r) then l.value?
  else if c = '*' then l.name? .alias
  else if c = '&' then l.name? .anchor
  else if c = '!' then l.tag?
  else if c = '|' ∧ !flow then l.block? .literal
  else if c = '>' ∧ !flow then l.block? .folded
  else if c = '\'' then l.quoted? false
  else if c = '"' then l.quoted? true
  else if startsPlain flow c r then l.plain?
  else none

def advance? (l : Lexer) : Option Lexer := do
  let (rest, allowed) := skipIgnored l.inFlow l.mark.column l.keyAllowed false l.rest
  let l ← ((l.moveTo rest).allowKey allowed).dropStaleKeys?
  some (l.closeBlocks l.mark.column)

def finish? (l : Lexer) : Option (List Token) := do
  let l ← (l.closeBlocks (-1)).dropKey?
  some l.tokens

/-- Each token takes a character at least. -/
def run? : Nat → Lexer → Option (List Token)
  | 0, _ => none
  | n + 1, l => do
    let l ← l.advance?
    match l.rest with
    | [] => l.finish?
    | c :: r => run? n (← l.token? c r)

end Lexer

def tokens? (text : List Char) : Option (List Token) :=
  if text.all isAllowed then
    Lexer.run? (text.length + 1) (.start (unifyBreaks text))
  else none

end BearerCheck.Yaml
