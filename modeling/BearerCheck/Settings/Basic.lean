import BearerCheck.Dictionary
import BearerCheck.Verifier.Basic

namespace BearerCheck

structure Certs where
  /-- In seconds. -/
  timeout : UInt64 := 30
  /-- For the host of an issuer, the host to ask in its place. -/
  aliases : List (String × String) := []
  deriving DecidableEq, Repr

structure Settings where
  subjects : List String := []
  algorithms : List String := []
  skew : UInt64 := .ofNat defaultSkew
  certs : Certs := {}
  deriving DecidableEq, Repr

structure Overrides where
  subjects : List String := []
  algorithms : List String := []
  aliases : List (String × String) := []
  skew : Option UInt64 := none
  timeout : Option UInt64 := none
  deriving DecidableEq, Repr

inductive Flaw where
  | emptySubject
  | emptyAlgorithm
  | skewTooLarge (skew : UInt64)
  | noTimeout
  | emptyHost (source target : String)
  deriving DecidableEq, Repr

def Flaw.message : Flaw → String
  | .emptySubject => "allowed_subjects cannot contain an empty subject"
  | .emptyAlgorithm => "allowed_algorithms cannot contain an empty algorithm"
  | .skewTooLarge skew => "clock_skew_secs " ++ toString skew.toNat ++ " is out of range"
  | .noTimeout => "certs.timeout_secs must be greater than 0"
  | .emptyHost source target =>
    "certs.host_aliases entry '" ++ source ++ "' -> '" ++ target ++ "' has an empty host name"

namespace Settings

def override (s : Settings) (o : Overrides) : Settings where
  subjects := s.subjects ++ o.subjects
  algorithms := s.algorithms ++ o.algorithms
  skew := o.skew.getD s.skew
  certs := {
    timeout := o.timeout.getD s.certs.timeout
    aliases := Dictionary.insertAll s.certs.aliases o.aliases }

def largestSkew : Nat := 0x7FFFFFFFFFFFFFFF

def hasEmptyHost (entry : String × String) : Bool := entry.1 = "" || entry.2 = ""

def flaw? (s : Settings) : Option Flaw :=
  if "" ∈ s.subjects then some .emptySubject
  else if "" ∈ s.algorithms then some .emptyAlgorithm
  else if largestSkew < s.skew.toNat then some (.skewTooLarge s.skew)
  else if s.certs.timeout = 0 then some .noTimeout
  else (s.certs.aliases.find? hasEmptyHost).map fun e => .emptyHost e.1 e.2

def policy (s : Settings) : Policy where
  subjects := Dictionary.names s.subjects
  algorithms := Dictionary.names s.algorithms
  skew := Int64.ofNat (min s.skew.toNat largestSkew)

end Settings

end BearerCheck
