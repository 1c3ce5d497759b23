import BearerCheck.Settings.Basic
import BearerCheck.Text.Unsigned
import BearerCheck.Yaml.Node

namespace BearerCheck.Settings

open Text Yaml

def text? (d : Document) (n : Node) : Option String :=
  match d.resolve n with
  | .scalar text .. => some text
  | _ => none

def items? (d : Document) (n : Node) : Option (List Node) :=
  match d.resolve n with
  | .sequence items => some items
  | .scalar "" .plain _ => some []
  | _ => none

def entries? (d : Document) (n : Node) : Option (List (Node × Node)) :=
  match d.resolve n with
  | .mapping entries => some entries
  | .scalar "" .plain _ => some []
  | _ => none

def unsigned? : List Char → Option UInt64
  | '0' :: 'x' :: ds => Unsigned.read? 16 ds
  | '0' :: 'o' :: ds => Unsigned.read? 8 ds
  | '0' :: 'b' :: ds => Unsigned.read? 2 ds
  | '0' :: d :: ds =>
    if (d :: ds).all Char.isDigit then none else Unsigned.read? 10 ('0' :: d :: ds)
  | ds => Unsigned.read? 10 ds

def integerTag : String := "tag:yaml.org,2002:int"

def wholeNumber? (d : Document) (n : Node) : Option UInt64 :=
  match d.resolve n with
  | .scalar text .plain _ => unsigned? (Unsigned.dropPlus text.toList)
  | .scalar text .literal tag =>
    if tag = some integerTag then unsigned? (Unsigned.dropPlus text.toList) else none
  | _ => none

def texts? (d : Document) (n : Node) : Option (List String) := do (← items? d n).mapM (text? d)

def members? (d : Document) (n : Node) : Option (List (String × Node)) := do
  (← entries? d n).mapM fun (k, v) => do return (← text? d k, v)

def member? {α : Type} (name : String) (read : Node → Option α) (default : α)
    (ms : List (String × Node)) : Option α :=
  match ms.filter (·.1 = name) with
  | [] => some default
  | [(_, v)] => read v
  | _ => none

def aliases? (d : Document) (n : Node) : Option (List (String × String)) := do
  let entries ← (← members? d n).mapM fun (k, v) => do return (k, ← text? d v)
  return Dictionary.ofList entries

def certs? (d : Document) (n : Node) : Option Certs := do
  let ms ← members? d n
  let base : Certs := {}
  return {
    timeout := ← member? "timeout_secs" (wholeNumber? d) base.timeout ms
    aliases := ← member? "host_aliases" (aliases? d) base.aliases ms }

def ofDocument? (d : Document) : Option Settings := do
  let ms ← members? d d.root
  let base : Settings := {}
  return {
    subjects := ← member? "allowed_subjects" (texts? d) base.subjects ms
    algorithms := ← member? "allowed_algorithms" (texts? d) base.algorithms ms
    skew := ← member? "clock_skew_secs" (wholeNumber? d) base.skew ms
    certs := ← member? "certs" (certs? d) base.certs ms }

end BearerCheck.Settings
