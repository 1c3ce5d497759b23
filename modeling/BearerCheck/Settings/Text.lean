import BearerCheck.Json.Text
import BearerCheck.Settings.Basic

namespace BearerCheck

open Json

def Certs.print (c : Certs) : List UInt8 :=
  objectOf [
    ("timeout_secs", Text.Utf8.encode (toString c.timeout.toNat)),
    ("host_aliases", objectOf (c.aliases.map fun e => (e.1, quote e.2)))]

def Settings.print (s : Settings) : List UInt8 :=
  objectOf [
    ("allowed_subjects", arrayOf (s.subjects.map quote)),
    ("allowed_algorithms", arrayOf (s.algorithms.map quote)),
    ("clock_skew_secs", Text.Utf8.encode (toString s.skew.toNat)),
    ("certs", s.certs.print)]

end BearerCheck
