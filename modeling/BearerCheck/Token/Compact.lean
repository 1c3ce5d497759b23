import BearerCheck.Base64
import BearerCheck.Token.Claims
import BearerCheck.Token.Header

/-!
The compact form of a token: segments of base64 with points between them. The first is the header
and the second the claims. What follows them is never looked at.
-/

namespace BearerCheck.Token

inductive Segment where
  | header
  | payload
  deriving DecidableEq, Repr

def Segment.name : Segment → String
  | .header => "header"
  | .payload => "payload"

inductive Error where
  | missingSegments (found : Nat)
  | base64 (segment : Segment) (error : Base64.Error)
  | json (segment : Segment) (error : Json.Error)
  deriving DecidableEq

def Error.message : Error → String
  | .missingSegments n => "invalid token: expected at least 2 segments, found " ++ toString n
  | .base64 s e => "invalid base64 in " ++ s.name ++ " segment: " ++ e.message
  | .json s e => "invalid JSON in " ++ s.name ++ " segment: " ++ e.message

def segments : List Char → List (List Char)
  | [] => [[]]
  | c :: r =>
    if c = '.' then [] :: segments r
    else
      match segments r with
      | s :: ss => (c :: s) :: ss
      | [] => [[c]]

def segmentBytes (name : Segment) (segment : List Char) : Except Error (List UInt8) :=
  (Base64.decode (Text.Utf8.encode (String.ofList segment))).mapError (.base64 name)

def readSegment {α : Type} (read : List UInt8 → Except Json.Error α) (name : Segment)
    (segment : List Char) : Except Error α := do
  (read (← segmentBytes name segment)).mapError (.json name)

def decode (token : String) : Except Error (Header × Claims) :=
  match segments token.toList with
  | h :: p :: _ => do
    let header ← readSegment Header.read .header h
    let claims ← readSegment Claims.read .payload p
    .ok (header, claims)
  | ss => .error (.missingSegments ss.length)

end BearerCheck.Token
