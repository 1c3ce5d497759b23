import BearerCheck.Dictionary
import BearerCheck.KeySet.Text
import BearerCheck.Url.Reader

namespace BearerCheck.Issuer

open Url

def certsSegments : List String := ["protocol", "openid-connect", "certs"]

def dropEmptySegment (path : List Char) : List Char :=
  if 1 < path.length ∧ path.getLast? = some '/' then path.dropLast else path

/-- A path that is only the root takes the segment without a slash of its own. -/
def addSegment (path : List Char) (segment : String) : List Char :=
  (if path.length = 1 then path else path ++ ['/']) ++ segment.toList

def certsPath (path : String) : String :=
  String.ofList (certsSegments.foldl addSegment (dropEmptySegment path.toList))

def applyAlias (aliases : List (String × String)) (u : Address) : Option Address :=
  match u.hostText?.bind (Dictionary.find? · aliases) with
  | some host => u.withHost? host
  | none => some u

def below (u : Address) : Option Address :=
  match u.path with
  | .whole _ => none
  | .segments dotted path =>
    some { u with path := .segments dotted (certsPath path), query := none, fragment := none }

def certsUrl (aliases : List (String × String)) (issuer : String) : Except LookupError Address :=
  let found := do
    let u ← Address.read? (Text.trimBlank issuer)
    let u ← applyAlias aliases u
    below u
  match found with
  | some u => .ok u
  | none => .error (.invalidUrl issuer)

structure Request where
  method : String
  url : Address
  accept : String
  deriving DecidableEq, Repr

def certsRequest (url : Address) : Request := ⟨"GET", url, "application/json"⟩

structure Failure where
  timedOut : Bool := false
  undecoded : Bool := false
  -- one that the client itself takes for a failure
  status : Option Nat := none
  reason : String
  deriving DecidableEq, Repr

def Failure.failed (reason : String) : Failure := { reason }

def Failure.error (f : Failure) : LookupError :=
  if f.timedOut then .timeout
  else if f.undecoded then .notKeySet f.reason
  else
    match f.status with
    | some code => .status code
    | none => .request f.reason

structure Reply where
  status : Nat
  body : Except Failure (List UInt8)

/-- What sends a request, follows where it is sent on, and hands over the last reply. -/
abbrev Client := Request → Except Failure Reply

def Reply.keySet (a : Reply) : Except LookupError KeySet :=
  if 200 ≤ a.status ∧ a.status ≤ 299 then do
    let bytes ← a.body.mapError Failure.error
    (KeySet.read bytes).mapError fun e => .notKeySet e.message
  else .error (.status a.status)

section Lookup

variable {m : Type → Type} [Monad m]

def fetch (aliases : List (String × String)) (send : Request → m (Except Failure Reply))
    (issuer : String) : ExceptT LookupError m KeySet := do
  let url ← certsUrl aliases issuer
  let answer ← send (certsRequest url)
  let reply ← answer.mapError Failure.error
  reply.keySet

def lookup (aliases : List (String × String)) (send : Request → m (Except Failure Reply))
    (issuer : String) (keyId : Option String) : ExceptT LookupError m Certificate := do
  let keys ← fetch aliases send issuer
  keys.certificate keyId

end Lookup

def resolve (aliases : List (String × String)) (client : Client) : Resolver :=
  fun issuer keyId =>
    Id.run (lookup aliases (fun request => pure (client request)) issuer keyId).run

end BearerCheck.Issuer
