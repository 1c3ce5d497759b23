namespace BearerCheck

structure Key where
  keyId : String
  keyType : String
  algorithm : String
  publicUse : String
  modulus : String
  exponent : String
  chain : List String
  thumbprint : String
  thumbprint256 : String
  deriving DecidableEq, Repr

def Key.empty : Key := ⟨"", "", "", "", "", "", [], "", ""⟩

structure Certificate where
  text : String
  keyId : String
  deriving DecidableEq, Repr

inductive LookupError where
  | invalidUrl (issuer : String)
  | request (reason : String)
  | timeout
  | status (code : Nat)
  | notKeySet (reason : String)
  | noKeys
  | keyNotFound (keyId : String)
  | noCertificate (keyId : String)
  deriving DecidableEq, Repr

def LookupError.message : LookupError → String
  | .invalidUrl issuer => "invalid issuer URL '" ++ issuer ++ "'"
  | .request reason => "request failed: " ++ reason
  | .timeout => "request timed out"
  | .status code => "HTTP " ++ toString code ++ " response"
  | .notKeySet reason => "invalid key set: " ++ reason
  | .noKeys => "key set contains no keys"
  | .keyNotFound keyId => "no key with ID '" ++ keyId ++ "' found"
  | .noCertificate keyId => "key '" ++ keyId ++ "' contains no X.509 certificates"

abbrev Resolver := String → Option String → Except LookupError Certificate

structure KeySet where
  keys : List Key
  deriving DecidableEq, Repr

namespace KeySet

def find? (ks : KeySet) (keyId : String) : Option Key :=
  ks.keys.find? fun k => k.keyId = keyId

def select (ks : KeySet) (keyId : Option String) : Except LookupError Key :=
  match ks.keys, keyId with
  | [], _ => .error .noKeys
  | k :: _, none => .ok k
  | _ :: _, some i =>
    match ks.find? i with
    | some k => .ok k
    | none => .error (.keyNotFound i)

def certificate (ks : KeySet) (keyId : Option String) : Except LookupError Certificate := do
  let k ← ks.select keyId
  match k.chain with
  | c :: _ => .ok ⟨c, k.keyId⟩
  | [] => .error (.noCertificate k.keyId)

end KeySet

end BearerCheck
