import BearerCheck.Text.Quoted
import BearerCheck.Verifier.Basic

namespace BearerCheck

def fields (title : String) (fs : List (String × String)) : String :=
  title ++ " \x7b " ++ ", ".intercalate (fs.map fun f => f.1 ++ ": " ++ f.2) ++ " \x7d"

def describeSet (xs : List String) : String :=
  "\x7b" ++ ", ".intercalate (xs.map Text.Quoted.write) ++ "\x7d"

def Policy.describe (p : Policy) : String :=
  fields "VerifierConfig" [
    ("allowed_subjects", describeSet p.subjects),
    ("allowed_algorithms", describeSet p.algorithms),
    ("clock_skew_secs", toString p.skew.toInt)]

def Verifier.describe (v : Verifier) : String :=
  fields "Verifier" [("config", v.policy.describe), ("resolver", toString v.resolver.isSome)]

end BearerCheck
