import BearerCheck.Json.Record
import BearerCheck.KeySet.Basic

namespace BearerCheck

open Json

namespace Key

def stringField (name : String) (set : Key → String → Key) : Member Key :=
  ⟨name, fun k s => (string s).map fun (t, r) => (set k t, r)⟩

def record : Record Key where
  title := "struct JwkKey"
  known := [
    stringField "kid" fun k t => { k with keyId := t },
    stringField "kty" fun k t => { k with keyType := t },
    stringField "alg" fun k t => { k with algorithm := t },
    stringField "use" fun k t => { k with publicUse := t },
    stringField "n" fun k t => { k with modulus := t },
    stringField "e" fun k t => { k with exponent := t },
    ⟨"x5c", fun k s => (list string s).map fun (ts, r) => ({ k with chain := ts }, r)⟩,
    stringField "x5t" fun k t => { k with thumbprint := t },
    stringField "x5t#S256" fun k t => { k with thumbprint256 := t }]
  other := ignore
  positional := true

def print (k : Key) : List UInt8 :=
  objectOf [
    ("kid", quote k.keyId), ("kty", quote k.keyType), ("alg", quote k.algorithm),
    ("use", quote k.publicUse), ("n", quote k.modulus), ("e", quote k.exponent),
    ("x5c", arrayOf (k.chain.map quote)), ("x5t", quote k.thumbprint),
    ("x5t#S256", quote k.thumbprint256)]

end Key

namespace KeySet

def record : Record KeySet where
  title := "struct Jwks"
  known := [⟨"keys", fun _ s => (list (Key.record.read .empty) s).map fun (ks, r) => (⟨ks⟩, r)⟩]
  other := ignore
  positional := true

def read (bytes : List UInt8) : Except Json.Error KeySet := document (record.read ⟨[]⟩) bytes

def print (ks : KeySet) : List UInt8 := objectOf [("keys", arrayOf (ks.keys.map Key.print))]

end KeySet

end BearerCheck
