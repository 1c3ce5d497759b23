import BearerCheck.Text.Unwritten

namespace BearerCheck.Text.Quoted

def escape (c : Char) : String :=
  if c = '\x00' then "\\0"
  else if c = '\t' then "\\t"
  else if c = '\n' then "\\n"
  else if c = '\r' then "\\r"
  else if c = '"' then "\\\""
  else if c = '\\' then "\\\\"
  else if Unwritten.contains c then
    "\\u\x7b" ++ String.ofList (Nat.toDigits 16 c.toNat) ++ "\x7d"
  else c.toString

def write (s : String) : String := "\"" ++ String.join (s.toList.map escape) ++ "\""

end BearerCheck.Text.Quoted
