import BearerCheck.Json.Text
import BearerCheck.Text.Quoted

namespace BearerCheck.Json

inductive Found where
  | scalar (s : Scalar)
  | sequence
  | map
  deriving DecidableEq

def Found.message : Found → String
  | .scalar .null => "null"
  | .scalar (.bool b) => "boolean `" ++ toString b ++ "`"
  | .scalar (.number (.integer i)) => "integer `" ++ toString i.val ++ "`"
  | .scalar (.number (.real x)) => "floating point `" ++ realLayout.write x ++ "`"
  | .scalar (.string s) => "string " ++ Text.Quoted.write s
  | .sequence => "sequence"
  | .map => "map"

inductive Error where
  | endOfValue
  | endOfArray
  | endOfObject
  | endOfString
  | noValue
  | badWord
  | noColon
  | noCommaInArray
  | noCommaInObject
  | keyNotString
  | trailingComma
  | trailingText
  | badNumber
  | numberRange
  | badEscape
  | loneSurrogate
  | unpairedSurrogate
  | control
  | notUtf8
  | tooDeep
  | duplicate (field : String)
  | wrongType (found : Found) (expected : String)
  deriving DecidableEq

def Error.message : Error → String
  | .endOfValue => "EOF while parsing a value"
  | .endOfArray => "EOF while parsing a list"
  | .endOfObject => "EOF while parsing an object"
  | .endOfString => "EOF while parsing a string"
  | .noValue => "expected value"
  | .badWord => "expected ident"
  | .noColon => "expected `:`"
  | .noCommaInArray => "expected `,` or `]`"
  | .noCommaInObject => "expected `,` or `\x7d`"
  | .keyNotString => "key must be a string"
  | .trailingComma => "trailing comma"
  | .trailingText => "trailing characters"
  | .badNumber => "invalid number"
  | .numberRange => "number out of range"
  | .badEscape => "invalid escape"
  | .loneSurrogate => "lone leading surrogate in hex escape"
  | .unpairedSurrogate => "unexpected end of hex escape"
  | .control => "control character (\\u0000-\\u001F) found while parsing a string"
  | .notUtf8 => "invalid unicode code point"
  | .tooDeep => "recursion limit exceeded"
  | .duplicate field => "duplicate field `" ++ field ++ "`"
  | .wrongType found expected => "invalid type: " ++ found.message ++ ", expected " ++ expected

end BearerCheck.Json
