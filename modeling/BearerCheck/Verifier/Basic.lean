import BearerCheck.KeySet.Basic
import BearerCheck.Status
import BearerCheck.Token.Compact

/-!
The checks on a token: its form, the allow-lists, the two times it must carry, and the clock. No
signature is checked. The certificate of its issuer is looked up on the way, but nothing depends on
the answer.
-/

namespace BearerCheck

open Token

/-- An empty list allows everything. -/
structure Policy where
  subjects : List String
  algorithms : List String
  skew : Int64
  deriving DecidableEq, Repr

def defaultSkew : Nat := 60

namespace Policy

def allows (allowed : List String) (s : String) : Bool := allowed.isEmpty || allowed.contains s

def allowsSubject (p : Policy) (c : Claims) : Bool :=
  allows p.subjects (c.subject.getD "")

def allowsAlgorithm (p : Policy) (h : Header) : Bool := allows p.algorithms h.algorithm

def isTime : Option Float → Bool
  | some t => decide (1.0 ≤ t)
  | none => false

def refusal? (p : Policy) (h : Header) (c : Claims) : Option Status :=
  if !p.allowsAlgorithm h then some .wrongAlgorithm
  else if !p.allowsSubject c then some .unauthorized
  else if !isTime c.issuedAt then some .noIssueTime
  else if !isTime c.expiresAt then some .noExpirationTime
  else none

def earliest (p : Policy) (c : Claims) : Int64 :=
  Int64.ofIntClamp ((c.issuedAtSeconds.getD 0).toInt - p.skew.toInt)

def latest (p : Policy) (c : Claims) : Int64 :=
  Int64.ofIntClamp ((c.expiresAtSeconds.getD 0).toInt + p.skew.toInt)

def window (p : Policy) (now : Int64) (c : Claims) : Status :=
  if now < p.earliest c then .tooEarly
  else if p.latest c < now then .expired
  else .ok

end Policy

structure Call where
  issuer : String
  keyId : Option String
  answer : Except LookupError Certificate

structure Verdict where
  status : Status
  calls : List Call

structure Verifier where
  policy : Policy
  resolver : Option Resolver

namespace Verifier

def lookup (v : Verifier) (h : Header) (c : Claims) : List Call :=
  match v.resolver, c.issuer with
  | some resolve, some issuer =>
    if issuer = "" then [] else [⟨issuer, h.keyId, resolve issuer h.keyId⟩]
  | _, _ => []

/-- The first check that fails decides. The clock is asked last, after the lookup. -/
def verify (v : Verifier) (now : Int64) (token : String) : Verdict :=
  if token = "" then ⟨.emptyToken, []⟩
  else
    match Token.decode token with
    | .error _ => ⟨.parseFailed, []⟩
    | .ok (h, c) =>
      match v.policy.refusal? h c with
      | some status => ⟨status, []⟩
      | none => ⟨v.policy.window now c, v.lookup h c⟩

end Verifier

end BearerCheck
