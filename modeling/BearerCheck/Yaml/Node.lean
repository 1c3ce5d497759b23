import BearerCheck.Yaml.Token

namespace BearerCheck.Yaml

inductive Node where
  | scalar (text : String) (style : Style) (tag : Option String)
  | sequence (items : List Node)
  | mapping (entries : List (Node × Node))
  | anchored (number : Nat) (node : Node)
  | alias (number : Nat)
  deriving Inhabited

def Node.empty (tag : Option String) : Node := .scalar "" .plain tag

structure Remaining where
  tokens : List Token
  names : List (String × Nat)

abbrev Building := StateT Remaining Option

namespace Node

def peek : Building (Option Token) := do return (← get).tokens.head?

def skip : Building Unit := modify fun s => { s with tokens := s.tokens.tail }

/-- An anchor gets the number of the names that are known before it. If its name is one of them, the
next anchor of a new name gets that number too, and takes its place. -/
def number (name : String) : Building Nat := do
  let s ← get
  let n := s.names.length
  set { s with names := (name, n) :: s.names.filter (·.1 ≠ name) }
  return n

def numberOf (name : String) : Building Nat := do
  match (← get).names.lookup name with
  | some n => return n
  | none => failure

def nameOf (handles : List (String × String)) (t : Tag) : Building String := t.name? handles

def properties (handles : List (String × String)) : Building (Option String × Option String) := do
  match ← peek with
  | some (.anchor a) =>
    skip
    match ← peek with
    | some (.tag t) =>
      skip
      return (some a, some (← nameOf handles t))
    | _ => return (some a, none)
  | some (.tag t) =>
    skip
    match ← peek with
    | some (.anchor a) =>
      skip
      return (some a, some (← nameOf handles t))
    | _ => return (none, some (← nameOf handles t))
  | _ => return (none, none)

def isMissing (stops : List Token) : Building Bool := do
  match ← peek with
  | some t => return t ∈ stops
  | none => return false

mutual

/-- A node. In a block, blocks may stand in it; with `indentless` a sequence may have the column of
the mapping around it. -/
def node (handles : List (String × String)) : Nat → Bool → Bool → Building Node
  | 0, _, _ => failure
  | n + 1, block, indentless => do
    match ← peek with
    | some (.alias name) =>
      skip
      return .alias (← numberOf name)
    | _ =>
      let (anchor, tag) ← properties handles
      match anchor with
      | some a =>
        let i ← number a
        return .anchored i (← content handles n block indentless true tag)
      | none => content handles n block indentless tag.isSome tag

def content (handles : List (String × String)) :
    Nat → Bool → Bool → Bool → Option String → Building Node
  | 0, _, _, _, _ => failure
  | n + 1, block, indentless, hasProperties, tag => do
    match ← peek with
    | some (.scalar text style) =>
      skip
      return .scalar text style tag
    | some .flowSequence =>
      skip
      return .sequence (← flowItems handles n true)
    | some .flowMapping =>
      skip
      return .mapping (← flowEntries handles n true)
    | some .blockEntry =>
      if indentless then return .sequence (← indentlessItems handles n)
      else if hasProperties then return .empty tag
      else failure
    | some .blockSequence =>
      if block then
        skip
        return .sequence (← blockItems handles n)
      else if hasProperties then return .empty tag
      else failure
    | some .blockMapping =>
      if block then
        skip
        return .mapping (← blockEntries handles n)
      else if hasProperties then return .empty tag
      else failure
    | _ => if hasProperties then return .empty tag else failure

def nodeUnless (handles : List (String × String)) : Nat → Bool → Bool → List Token → Building Node
  | 0, _, _, _ => failure
  | n + 1, block, indentless, stops => do
    if ← isMissing stops then return .empty none else node handles n block indentless

def blockItems (handles : List (String × String)) : Nat → Building (List Node)
  | 0 => failure
  | n + 1 => do
    match ← peek with
    | some .blockEntry =>
      skip
      let item ← nodeUnless handles n true false [.blockEntry, .blockEnd]
      return item :: (← blockItems handles n)
    | some .blockEnd =>
      skip
      return []
    | _ => failure

def indentlessItems (handles : List (String × String)) : Nat → Building (List Node)
  | 0 => failure
  | n + 1 => do
    match ← peek with
    | some .blockEntry =>
      skip
      let item ← nodeUnless handles n true false [.blockEntry, .key, .value, .blockEnd]
      return item :: (← indentlessItems handles n)
    | _ => return []

def blockEntries (handles : List (String × String)) : Nat → Building (List (Node × Node))
  | 0 => failure
  | n + 1 => do
    match ← peek with
    | some .key =>
      skip
      let key ← nodeUnless handles n true true [.key, .value, .blockEnd]
      let value ←
        match ← peek with
        | some .value => do
          skip
          nodeUnless handles n true true [.key, .value, .blockEnd]
        | _ => pure (.empty none)
      return (key, value) :: (← blockEntries handles n)
    | some .blockEnd =>
      skip
      return []
    | _ => failure

def flowItems (handles : List (String × String)) : Nat → Bool → Building (List Node)
  | 0, _ => failure
  | n + 1, first => do
    match ← peek with
    | some .flowSequenceEnd =>
      skip
      return []
    | t =>
      if !first then
        if t = some .flowEntry then skip else failure
      match ← peek with
      | some .flowSequenceEnd =>
        skip
        return []
      | some .key =>
        skip
        let item ← flowPair handles n
        return item :: (← flowItems handles n false)
      | _ =>
        let item ← node handles n false false
        return item :: (← flowItems handles n false)

/-- The entry behind a key in a flow sequence. The token in place of a missing key is skipped. -/
def flowPair (handles : List (String × String)) : Nat → Building Node
  | 0 => failure
  | n + 1 => do
    let key ←
      if ← isMissing [.value, .flowEntry, .flowSequenceEnd] then do
        skip
        pure (.empty none)
      else node handles n false false
    match ← peek with
    | some .value =>
      skip
      let value ← nodeUnless handles n false false [.flowEntry, .flowSequenceEnd]
      return .mapping [(key, value)]
    | _ => return .mapping [(key, .empty none)]

def flowEntries (handles : List (String × String)) : Nat → Bool → Building (List (Node × Node))
  | 0, _ => failure
  | n + 1, first => do
    match ← peek with
    | some .flowMappingEnd =>
      skip
      return []
    | t =>
      if !first then
        if t = some .flowEntry then skip else failure
      match ← peek with
      | some .flowMappingEnd =>
        skip
        return []
      | some .key =>
        skip
        let key ← nodeUnless handles n false false [.value, .flowEntry, .flowMappingEnd]
        let value ←
          match ← peek with
          | some .value => do
            skip
            nodeUnless handles n false false [.flowEntry, .flowMappingEnd]
          | _ => pure (.empty none)
        return (key, value) :: (← flowEntries handles n false)
      | _ =>
        let key ← node handles n false false
        return (key, .empty none) :: (← flowEntries handles n false)

end

def anchors : Node → List (Nat × Node)
  | .scalar .. => []
  | .sequence items => ofItems items
  | .mapping entries => ofEntries entries
  | .anchored i n => (i, n) :: n.anchors
  | .alias _ => []
where
  ofItems : List Node → List (Nat × Node)
    | [] => []
    | n :: r => n.anchors ++ ofItems r
  ofEntries : List (Node × Node) → List (Nat × Node)
    | [] => []
    | (k, v) :: r => k.anchors ++ v.anchors ++ ofEntries r

end Node

structure Document where
  root : Node
  anchors : List (Nat × Node)

namespace Document

def knownHandles : List (String × String) := [("!", "!"), ("!!", "tag:yaml.org,2002:")]

def directives : Bool → List (String × String) → List Directive → Option (List (String × String))
  | _, handles, [] => some (handles ++ knownHandles)
  | versioned, handles, .version major minor :: r =>
    if versioned ∨ major ≠ 1 ∨ minor ∉ [1, 2] then none else directives true handles r
  | versioned, handles, .tag h stem :: r =>
    if (handles.lookup h).isSome then none else directives versioned ((h, stem) :: handles) r

def leadingDirectives : List Token → List Directive × List Token
  | .directive d :: r => let (ds, t) := leadingDirectives r; (d :: ds, t)
  | ts => ([], ts)

def isDocumentToken : Token → Bool
  | .directive _ | .documentStart | .documentEnd => true
  | _ => false

def root? (handles : List (String × String)) (explicit : Bool) (tokens : List Token) :
    Option (Node × List Token) :=
  if explicit ∧ (tokens.head?.map isDocumentToken).getD true then some (.empty none, tokens)
  else do
    let (n, s) ← (Node.node handles (4 * tokens.length + 4) true false).run ⟨tokens, []⟩
    some (n, s.tokens)

def ofTokens? (tokens : List Token) : Option Document := do
  let (ds, rest) := leadingDirectives tokens
  let (root, rest) ←
    match ds, rest with
    | [], [] => some (.empty none, [])
    | _, .documentStart :: r => root? (← directives false [] ds) true r
    | [], _ => root? knownHandles false rest
    | _, _ => none
  if rest.all (· = .documentEnd) then some ⟨root, root.anchors⟩ else none

def read? (text : String) : Option Document := do ofTokens? (← tokens? text.toList)

/-- What a node says, past its anchor or its alias. Of several nodes with one number the last one
counts. -/
def resolve (d : Document) : Node → Node
  | .anchored _ n => n
  | .alias i => (d.anchors.reverse.lookup i).getD (.empty none)
  | n => n

end Document

end BearerCheck.Yaml
