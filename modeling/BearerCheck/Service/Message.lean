import BearerCheck.Json.Record
import BearerCheck.Status

namespace BearerCheck.Service

open Json

structure Request where
  token : String
  deriving DecidableEq, Repr

namespace Request

def record : Record Request where
  title := "struct VerifyRequest"
  known := [⟨"token", fun _ s => (string s).map fun (t, r) => (⟨t⟩, r)⟩]
  other := ignore
  positional := true

def read (bytes : List UInt8) : Except Json.Error Request := document (record.read ⟨""⟩) bytes

def print (q : Request) : List UInt8 := objectOf [("token", quote q.token)]

end Request

structure Response where
  success : Bool
  status : Int32
  deriving DecidableEq, Repr

namespace Response

def ofStatus (s : Status) : Response := ⟨s = .ok, .ofNat s.code⟩

def print (a : Response) : List UInt8 :=
  objectOf [
    ("success", (Scalar.bool a.success).print),
    ("status", Text.Utf8.encode (toString a.status.toInt))]

def record : Record (Option Bool × Option Int32) where
  title := "struct VerifyResponse"
  known := [
    ⟨"success", fun x s => (boolean s).map fun (b, r) => ((some b, x.2), r)⟩,
    ⟨"status", fun x s => (integer s).map fun (n, r) => ((x.1, some n), r)⟩]
  other := ignore
  positional := true

def read? (bytes : List UInt8) : Option Response :=
  match document (record.read (none, none)) bytes with
  | .ok (some success, some status) => some ⟨success, status⟩
  | _ => none

end Response

end BearerCheck.Service
