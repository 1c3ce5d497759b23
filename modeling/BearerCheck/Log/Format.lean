namespace BearerCheck.Log

inductive Format where
  | json
  | pretty
  deriving DecidableEq, Repr

structure UnknownFormat where
  name : String
  deriving DecidableEq, Repr

def UnknownFormat.message (e : UnknownFormat) : String := "Unknown log format '" ++ e.name ++ "'"

def Format.ofName (name : String) : Except UnknownFormat Format :=
  let lower := name.map Char.toLower
  if lower = "json" then .ok .json
  else if lower = "pretty" ∨ lower = "text" then .ok .pretty
  else .error ⟨lower⟩

end BearerCheck.Log
