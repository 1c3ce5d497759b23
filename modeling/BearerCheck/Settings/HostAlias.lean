import BearerCheck.Text.Trim

namespace BearerCheck.HostAlias

inductive Error where
  | noEquals (text : String)
  | emptyHost (text : String)
  deriving DecidableEq, Repr

def Error.message : Error → String
  | .noEquals text => "Host alias '" ++ text ++ "' must have the form FROM=TO"
  | .emptyHost text => "Host alias '" ++ text ++ "' has an empty host name on one side"

def split? (text : List Char) : Option (List Char × List Char) :=
  match text.dropWhile (· ≠ '=') with
  | [] => none
  | _ :: target => some (text.takeWhile (· ≠ '='), target)

def read (text : String) : Except Error (String × String) :=
  match split? text.toList with
  | none => .error (.noEquals text)
  | some (source, target) =>
    match Text.trim Text.isBlank source, Text.trim Text.isBlank target with
    | c :: cs, d :: ds => .ok (String.ofList (c :: cs), String.ofList (d :: ds))
    | _, _ => .error (.emptyHost text)

end BearerCheck.HostAlias
