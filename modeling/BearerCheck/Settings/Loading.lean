import BearerCheck.Settings.Document
import BearerCheck.Settings.Environment
import BearerCheck.Text.Trim

namespace BearerCheck.Settings

inductive FileError where
  | system (reason : String) (number : Nat)
  | badPath
  | notText
  deriving DecidableEq, Repr

def FileError.message : FileError → String
  | .system reason number => reason ++ " (os error " ++ toString number ++ ")"
  | .badPath => "file name contained an unexpected NUL byte"
  | .notText => "stream did not contain valid UTF-8"

inductive LoadError where
  | unreadable (e : FileError)
  | unset (name : String)
  | malformed
  | flawed (f : Flaw)
  deriving DecidableEq, Repr

def LoadError.message : LoadError → String
  | .unreadable e => "Failed to read config file: " ++ e.message
  | .unset name => "Environment variable '" ++ name ++ "' is referenced but not set"
  | .malformed => "the document does not hold valid settings"
  | .flawed f => f.message

def read (text : String) : Except LoadError Settings :=
  if Text.trimBlank text = "" then .ok {}
  else
    match (Yaml.Document.read? text).bind ofDocument? with
    | some s => .ok s
    | none => .error .malformed

def load (e : Environment) (text : String) : Except LoadError Settings := do
  read (← (Reference.substitute e text).mapError .unset)

def loadFile (e : Environment) (content : Except FileError (List UInt8)) :
    Except LoadError Settings := do
  let bytes ← content.mapError .unreadable
  match Text.Utf8.decode bytes with
  | some text => load e text
  | none => .error (.unreadable .notText)

def final (e : Environment) (file : Option (Except FileError (List UInt8))) (o : Overrides) :
    Except LoadError Settings := do
  let base ← match file with
    | some content => loadFile e content
    | none => .ok {}
  let s := base.override o
  match s.flaw? with
  | some f => .error (.flawed f)
  | none => .ok s

end BearerCheck.Settings
