import BearerCheck.Json.Error

namespace BearerCheck.Json

open Text

/-- Where a reader of a string stands. `unit lead ds` has the hexadecimal digits `ds`, last first,
of an escape; `lead` is the leading surrogate that came before it. -/
inductive StringState where
  | plain
  | escape
  | unit (lead : Option Nat) (ds : List UInt8)
  | lead (n : Nat)
  | leadEscape (n : Nat)

def escapedByte? (b : UInt8) : Option UInt8 :=
  if b = Ascii.quote ∨ b = Ascii.backslash ∨ b = Ascii.slash then some b
  else if b = 0x62 then some 0x08
  else if b = 0x66 then some Ascii.formFeed
  else if b = 0x6E then some Ascii.lineFeed
  else if b = 0x72 then some Ascii.carriageReturn
  else if b = 0x74 then some Ascii.tab
  else none

def hexValue? : List UInt8 → Option Nat
  | [] => some 0
  | d :: ds => do
    let n ← hexValue? ds
    let h ← Ascii.hexDigit? d
    some (16 * n + h)

def codePoint (n : Nat) : List UInt8 := String.utf8EncodeChar (Char.ofNat n)

def unit (lead : Option Nat) (n : Nat) : Except Error (List UInt8 × StringState) :=
  match lead with
  | none =>
    if 0xDC00 ≤ n ∧ n ≤ 0xDFFF then .error .loneSurrogate
    else if 0xD800 ≤ n ∧ n ≤ 0xDBFF then .ok ([], .lead n)
    else .ok (codePoint n, .plain)
  | some m =>
    if 0xDC00 ≤ n ∧ n ≤ 0xDFFF then
      .ok (codePoint (0x10000 + (m - 0xD800) * 0x400 + (n - 0xDC00)), .plain)
    else .error .loneSurrogate

def prepend (bs : List UInt8) (read : Except Error (List UInt8 × List UInt8)) :
    Except Error (List UInt8 × List UInt8) :=
  read.map fun (cs, r) => (bs ++ cs, r)

def stringBytes : StringState → List UInt8 → Except Error (List UInt8 × List UInt8)
  | _, [] => .error .endOfString
  | .plain, b :: r =>
    if b = Ascii.quote then .ok ([], r)
    else if b = Ascii.backslash then stringBytes .escape r
    else if b < 0x20 then .error .control
    else prepend [b] (stringBytes .plain r)
  | .escape, b :: r =>
    match escapedByte? b with
    | some c => prepend [c] (stringBytes .plain r)
    | none => if b = 0x75 then stringBytes (.unit none []) r else .error .badEscape
  | .unit lead ds, b :: r =>
    if ds.length < 3 then stringBytes (.unit lead (b :: ds)) r
    else
      match hexValue? (b :: ds) with
      | none => .error .badEscape
      | some n =>
        match unit lead n with
        | .error e => .error e
        | .ok (bs, state) => prepend bs (stringBytes state r)
  | .lead n, b :: r =>
    if b = Ascii.backslash then stringBytes (.leadEscape n) r else .error .unpairedSurrogate
  | .leadEscape n, b :: r =>
    if b = 0x75 then stringBytes (.unit (some n) []) r else .error .unpairedSurrogate

def stringText (s : List UInt8) : Except Error (String × List UInt8) := do
  let (bs, r) ← stringBytes .plain s
  match Utf8.decode bs with
  | some t => .ok (t, r)
  | none => .error .notUtf8

inductive SkimState where
  | plain
  | escape
  | unit (ds : List UInt8)

def skimString : SkimState → List UInt8 → Except Error (List UInt8)
  | _, [] => .error .endOfString
  | .plain, b :: r =>
    if b = Ascii.quote then .ok r
    else if b = Ascii.backslash then skimString .escape r
    else if b < 0x20 then .error .control
    else skimString .plain r
  | .escape, b :: r =>
    if (escapedByte? b).isSome then skimString .plain r
    else if b = 0x75 then skimString (.unit []) r
    else .error .badEscape
  | .unit ds, b :: r =>
    if ds.length < 3 then skimString (.unit (b :: ds)) r
    else if (hexValue? (b :: ds)).isSome then skimString .plain r
    else .error .badEscape

end BearerCheck.Json
