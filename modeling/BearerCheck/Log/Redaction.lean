namespace BearerCheck.Log

def shown : Nat := 12

def front (token : String) : String := String.ofList (token.toList.take shown)

def omission (bytes : Nat) : String := "...(" ++ toString bytes ++ " bytes)"

def redact (token : String) : String :=
  if (front token).utf8ByteSize < token.utf8ByteSize then
    front token ++ omission token.utf8ByteSize
  else front token

end BearerCheck.Log
