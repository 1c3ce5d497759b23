import BearerCheck.Decimal.Shortest
import BearerCheck.Json.Value
import BearerCheck.Text.Ascii
import BearerCheck.Text.Utf8

namespace BearerCheck.Json

open Text

def escapeByte (b : UInt8) : List UInt8 :=
  if b = Ascii.quote then [Ascii.backslash, Ascii.quote]
  else if b = Ascii.backslash then [Ascii.backslash, Ascii.backslash]
  else if b = 0x08 then [Ascii.backslash, 0x62]
  else if b = Ascii.tab then [Ascii.backslash, 0x74]
  else if b = Ascii.lineFeed then [Ascii.backslash, 0x6E]
  else if b = Ascii.formFeed then [Ascii.backslash, 0x66]
  else if b = Ascii.carriageReturn then [Ascii.backslash, 0x72]
  else if b < 0x20 then
    [Ascii.backslash, 0x75, 0x30, 0x30,
      Ascii.hexDigit (b.toNat / 16), Ascii.hexDigit (b.toNat % 16)]
  else [b]

def quote (s : String) : List UInt8 :=
  Ascii.quote :: ((Utf8.encode s).flatMap escapeByte ++ [Ascii.quote])

/-- Numbers from `0.00001` up to below `10 ^ 16` are written without an exponent. -/
def realLayout : Decimal.Layout := ⟨-5, 15, "e+", "e-"⟩

def Number.text : Number → String
  | .integer i => toString i.val
  | .real x => realLayout.write x

def Number.print (n : Number) : List UInt8 := Utf8.encode n.text

def Scalar.print : Scalar → List UInt8
  | .null => Utf8.encode "null"
  | .bool b => Utf8.encode (if b then "true" else "false")
  | .number n => n.print
  | .string s => quote s

def arrayOf : List (List UInt8) → List UInt8
  | [] => [Ascii.openBracket, Ascii.closeBracket]
  | t :: ts => Ascii.openBracket :: (t ++ ts.flatMap (Ascii.comma :: ·) ++ [Ascii.closeBracket])

def member (m : String × List UInt8) : List UInt8 := quote m.1 ++ Ascii.colon :: m.2

def objectOf : List (String × List UInt8) → List UInt8
  | [] => [Ascii.openBrace, Ascii.closeBrace]
  | m :: ms =>
    Ascii.openBrace :: (member m ++ ms.flatMap (Ascii.comma :: member ·) ++ [Ascii.closeBrace])

mutual

def Value.print : Value → List UInt8
  | .scalar s => s.print
  | .array vs => arrayOf (printAll vs)
  | .object ms => objectOf (printMembers ms)

def printAll : List Value → List (List UInt8)
  | [] => []
  | v :: vs => v.print :: printAll vs

def printMembers : List (String × Value) → List (String × List UInt8)
  | [] => []
  | (k, v) :: ms => (k, v.print) :: printMembers ms

end

end BearerCheck.Json
