import BearerCheck.Domain.Name
import BearerCheck.Text.Trim
import BearerCheck.Url.Basic
import BearerCheck.Url.Segments

namespace BearerCheck.Url

open Text

def scheme? : List Char → Option (String × List Char)
  | [] => none
  | c :: r =>
    let isPart (c : Char) : Bool := c.isAlphanum || c = '+' || c = '-' || c = '.'
    match (c :: r).dropWhile isPart with
    | ':' :: rest =>
      if c.isAlpha then
        some (String.ofList (((c :: r).takeWhile isPart).map Char.toLower), rest)
      else none
    | _ => none

def splitAt (mark : Char) (s : List Char) : List Char × Option (List Char) :=
  (s.takeWhile (· ≠ mark), ((s.dropWhile (· ≠ mark)).head?).map fun _ =>
    (s.dropWhile (· ≠ mark)).tail)

def bracketed? : List Char → Option (List Char)
  | '[' :: r => if r.getLast? = some ']' then some r.dropLast else none
  | _ => none

def specialHost? (s : List Char) : Option Host :=
  if s.head? = some '[' then do some (.ipv6 (← Ipv6.read? (← bracketed? s)))
  else do
    let plain ← Utf8.decode (Percent.decode (Utf8.encode (String.ofList s)))
    let name ← Domain.toAscii? plain.toList
    let name := String.ofList name
    if name = "" then none
    else if Ipv4.endsInNumber name then do some (.ipv4 (← Ipv4.read? name))
    else some (.name name)

def isForbiddenInHost (c : Char) : Bool :=
  c ∈ ['\x00', '\t', '\n', '\r', ' ', '#', '/', ':', '<', '>', '?', '@', '[', '\\', ']', '^', '|']

def otherHost? (s : List Char) : Option (Option Host) :=
  if s.head? = some '[' then do some (some (.ipv6 (← Ipv6.read? (← bracketed? s))))
  else if s.any isForbiddenInHost then none
  else if s = [] then some none
  else some (some (.name (String.ofList (Percent.encode [] s))))

def host? (special : Bool) (s : List Char) : Option (Option Host) :=
  if special then (specialHost? s).map some else otherHost? s

def splitHost (inside : Bool) : List Char → List Char × List Char
  | [] => ([], [])
  | c :: r =>
    if c = ':' ∧ !inside then ([], c :: r)
    else
      let inside := if c = '[' then true else if c = ']' then false else inside
      let (h, rest) := splitHost inside r
      (c :: h, rest)

def port? (scheme : String) : List Char → Option (Option Nat × List Char)
  | ':' :: r => do
    let ds := r.takeWhile Char.isDigit
    let rest := r.dropWhile Char.isDigit
    if rest ≠ [] ∧ rest.head? ≠ some '\\' then none
    else if ds = [] then some (none, rest)
    else
      let n ← digitsValue? 10 ds
      if 65535 < n then none
      else some (if defaultPort? scheme = some n then none else some n, rest)
  | rest => some (none, rest)

def splitUser (s : List Char) : Option (List Char) × List Char :=
  let behind := (s.reverse.takeWhile (· ≠ '@')).reverse
  if behind.length = s.length then (none, s)
  else (some (s.take (s.length - behind.length - 1)), behind)

def encodeUser (s : List Char) : String := String.ofList (Percent.encode Percent.userSet s)

/-- An authority, and what of its text belongs to the path. `more` tells whether anything follows
it. -/
def authority? (scheme : String) (more : Bool) (s : List Char) :
    Option (Authority × List Char) := do
  let special := Kind.ofScheme scheme = .special
  let (user, behind) := splitUser s
  let (name, secret) := splitAt ':' (user.getD [])
  let username := encodeUser name
  let password := encodeUser (secret.getD [])
  let (hostText, afterHost) := splitHost false behind
  let host ← host? special hostText
  let (port, rest) ← port? scheme afterHost
  let a : Authority := ⟨username, password, host, port⟩
  if user = some [] ∧ behind = [] ∧ more then none
  else if host = none ∧ (a.user ≠ "" ∨ afterHost.head? = some ':') then none
  else some (a, rest)

def pathAfter (special : Bool) (s : List Char) : Path :=
  let build (r : List Char) : Path :=
    .segments false (Segments.text (Segments.resolve Segments.push [] (Segments.split special r)))
  match s with
  | [] => if special then .segments false "/" else .segments false ""
  | c :: r => if c = '/' ∨ (special ∧ c = '\\') then build r else build (c :: r)

def pathAlone (s : List Char) : Path :=
  let ss := Segments.resolve Segments.push [] (Segments.split false s)
  .segments (1 < ss.length ∧ ss.head? = some []) (Segments.text ss)

def withAuthority? (scheme : String) (more : Bool) (s : List Char) :
    Option (Authority × Path) := do
  let special := Kind.ofScheme scheme = .special
  let ends (c : Char) : Bool := c = '/' || (special && c = '\\')
  let rest := s.dropWhile (!ends ·)
  let (a, left) ← authority? scheme (more || rest ≠ []) (s.takeWhile (!ends ·))
  some (a, pathAfter special (left ++ rest))

def isSlash (c : Char) : Bool := c = '/' || c = '\\'

def afterSlash? (s : List Char) : Option (List Char) :=
  match s.dropWhile Segments.isUnseen with
  | c :: r => if isSlash c then some r else none
  | [] => none

/-- A file URL: a host may follow two slashes, unless a drive does. A drive that comes at once, or
right behind the host and its slash, puts the host out of force. -/
def file? (s : List Char) : Option (Authority × Path) := do
  let (hostText, atOnce, inner) :=
    match afterSlash? s with
    | none => ([], true, s)
    | some r =>
      match afterSlash? r with
      | none => ([], false, r)
      | some r =>
        let h := Segments.visible (r.takeWhile (!isSlash ·))
        if Segments.isDrive h then ([], true, r)
        else (h, false, (r.dropWhile (!isSlash ·)).tail)
  let host ← if hostText = [] then some none else (specialHost? hostText).map some
  let host := if host = some (.name "localhost") then none else host
  let parts := Segments.split true inner
  let atDrive := (atOnce || host.isSome) &&
    parts.head?.any fun p => Segments.isDrive (Segments.visible p)
  let parts := if atDrive then Segments.settleDrive parts else parts
  let host := if atDrive then none else host
  let kept := Segments.dropEmpty (Segments.resolve Segments.pushFile [] parts)
  some (⟨"", "", host, none⟩, .segments false (Segments.text kept))

def Address.read? (s : String) : Option Address := do
  let whole := trim (fun c => c.toNat ≤ 0x20) s.toList
  let (scheme, _) ← scheme? (Segments.visible whole)
  let (front, fragment) := splitAt '#' (whole.dropWhile (· ≠ ':')).tail
  let (front, query) := splitAt '?' front
  let more := query.isSome || fragment.isSome
  let querySet :=
    if Kind.ofScheme scheme = .other then Percent.querySet else Percent.specialQuerySet
  let encode (special s : List Char) : String :=
    String.ofList (Percent.encode special (Segments.visible s))
  let query := query.map (encode querySet)
  let fragment := fragment.map (encode Percent.fragmentSet)
  match Kind.ofScheme scheme, Segments.visible front with
  | .file, _ => do
    let (a, path) ← file? front
    some ⟨scheme, some a, path, query, fragment⟩
  | .special, r => do
    let (a, path) ← withAuthority? scheme more (r.dropWhile isSlash)
    some ⟨scheme, some a, path, query, fragment⟩
  | .other, '/' :: '/' :: r => do
    let (a, path) ← withAuthority? scheme more r
    some ⟨scheme, some a, path, query, fragment⟩
  | .other, '/' :: r => some ⟨scheme, none, pathAlone r, query, fragment⟩
  | .other, r =>
    some ⟨scheme, none, .whole (String.ofList (Percent.encode [] r)), query, fragment⟩

/-- Puts a host in place of the one there is. Of a text with a colon only what stands before it
counts, unless it is an address in brackets. -/
def Address.withHost? (u : Address) (text : String) : Option Address := do
  let a ← u.authority
  let s := text.toList
  let s ←
    if s.head? = some '[' ∧ s.getLast? = some ']' then some s
    else if s.head? = some ':' then none
    else some (s.takeWhile (· ≠ ':'))
  let host ← host? (u.kind ≠ .other) s
  some { u with authority := some { a with host := host } }

end BearerCheck.Url
