import BearerCheck.Json.Record

namespace BearerCheck.Token

open Json

structure Header where
  /-- Empty if the header names none. -/
  algorithm : String
  keyId : Option String
  deriving DecidableEq, Repr

namespace Header

def record : Record Header where
  title := "struct Header"
  known := [
    ⟨"alg", fun h s => (string s).map fun (a, r) => ({ h with algorithm := a }, r)⟩,
    ⟨"kid", fun h s =>
      (value (depthLimit - 1) s).map fun (v, r) => ({ h with keyId := v.string? }, r)⟩]
  other := ignore
  positional := true

def read (bytes : List UInt8) : Except Error Header := document (record.read ⟨"", none⟩) bytes

def print (h : Header) : List UInt8 :=
  objectOf (("alg", quote h.algorithm) :: (h.keyId.map fun k => ("kid", quote k)).toList)

end Header

end BearerCheck.Token
