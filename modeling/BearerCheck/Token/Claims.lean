import BearerCheck.Json.Record

namespace BearerCheck.Token

open Json

structure Claims where
  subject : Option String
  issuedAt : Option Float
  expiresAt : Option Float
  issuer : Option String
  /-- The other members, in ascending order of their names. -/
  other : List (String × Value)

namespace Claims

def empty : Claims := ⟨none, none, none, none, []⟩

def keep (c : Claims) (name : String) : Reader Claims := fun s =>
  (addMember (value (depthLimit - 1)) c.other name s).map fun (ms, r) => ({ c with other := ms }, r)

def record : Record Claims where
  title := "struct ClaimSet"
  known := [
    ⟨"sub", fun c s => (optional string s).map fun (x, r) => ({ c with subject := x }, r)⟩,
    ⟨"iat", fun c s => (optional real s).map fun (x, r) => ({ c with issuedAt := x }, r)⟩,
    ⟨"exp", fun c s => (optional real s).map fun (x, r) => ({ c with expiresAt := x }, r)⟩,
    ⟨"iss", fun c s => (optional string s).map fun (x, r) => ({ c with issuer := x }, r)⟩]
  other := keep
  positional := false

def read (bytes : List UInt8) : Except Error Claims := document (record.read empty) bytes

def print (c : Claims) : List UInt8 :=
  objectOf (
    (c.subject.map fun s => ("sub", quote s)).toList ++
    (c.issuedAt.map fun t => ("iat", (Number.real t).print)).toList ++
    (c.expiresAt.map fun t => ("exp", (Number.real t).print)).toList ++
    (c.issuer.map fun s => ("iss", quote s)).toList ++
    printMembers c.other)

def wholeSeconds (t : Float) : Int64 := t.toModel.toInt64

def issuedAtSeconds (c : Claims) : Option Int64 := c.issuedAt.map wholeSeconds

def expiresAtSeconds (c : Claims) : Option Int64 := c.expiresAt.map wholeSeconds

end Claims

end BearerCheck.Token
