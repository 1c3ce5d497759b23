namespace BearerCheck

inductive Fault where
  | settings (reason : String)
  | io (reason : String)
  | protocol (reason : String)
  deriving DecidableEq, Repr

def Fault.message : Fault → String
  | .settings reason => "Configuration error: " ++ reason
  | .io reason => "I/O error: " ++ reason
  | .protocol reason => "Protocol error: " ++ reason

end BearerCheck
