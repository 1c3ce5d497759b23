import BearerCheck.Url.Host

namespace BearerCheck.Url

structure Authority where
  username : String
  password : String
  /-- Nothing stands for an empty host. -/
  host : Option Host
  port : Option Nat
  deriving DecidableEq, Repr

inductive Path where
  | whole (text : String)
  /-- A path that is empty or starts with a slash. With `dotted` it is written behind `/.`, so that
  two slashes at its start are not taken for those before an authority. -/
  | segments (dotted : Bool) (text : String)
  deriving DecidableEq, Repr

structure Address where
  scheme : String
  authority : Option Authority
  path : Path
  query : Option String
  fragment : Option String
  deriving DecidableEq, Repr

def Authority.user (a : Authority) : String :=
  let password := if a.password = "" then "" else ":" ++ a.password
  if a.username = "" ∧ a.password = "" then "" else a.username ++ password ++ "@"

def Authority.text (a : Authority) : String :=
  let port := match a.port with
    | some p => ":" ++ toString p
    | none => ""
  a.user ++ (a.host.map Host.text).getD "" ++ port

def Path.text : Path → String
  | .whole s => s
  | .segments dotted s => if dotted then "/." ++ s else s

def marked (mark : String) : Option String → String
  | some s => mark ++ s
  | none => ""

def Address.text (u : Address) : String :=
  u.scheme ++ ":" ++ marked "//" (u.authority.map Authority.text) ++ u.path.text ++
    marked "?" u.query ++ marked "#" u.fragment

def Address.hostText? (u : Address) : Option String := do
  let a ← u.authority
  let h ← a.host
  some h.text

inductive Kind where
  | file
  | special
  | other
  deriving DecidableEq, Repr

def Kind.ofScheme (scheme : String) : Kind :=
  if scheme = "file" then .file
  else if scheme ∈ ["http", "https", "ws", "wss", "ftp"] then .special
  else .other

def Address.kind (u : Address) : Kind := .ofScheme u.scheme

def defaultPort? (scheme : String) : Option Nat :=
  if scheme = "http" ∨ scheme = "ws" then some 80
  else if scheme = "https" ∨ scheme = "wss" then some 443
  else if scheme = "ftp" then some 21
  else none

end BearerCheck.Url
