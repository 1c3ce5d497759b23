import BearerCheck.Issuer.Endpoint
import BearerCheck.Proofs.Url.Front

/-!
The URL of an issuer's keys. It has the scheme, the user and the port of the issuer's own, and its
host unless that has an alias. Blanks around the issuer, its query, its fragment and a slash at the
end of its path make no difference.
-/

namespace BearerCheck.Issuer

open Url Dictionary

/-- The path without one slash at its end, and nothing for the root. -/
def basePath (path : String) : String :=
  let cut := if path ≠ "/" ∧ path.toList.getLast? = some '/' then
      String.ofList path.toList.dropLast
    else path
  if cut = "/" then "" else cut

def keysAt (scheme : String) (a : Authority) (host : Host) (path : String) : Address where
  scheme := scheme
  authority := some { a with host := some host }
  path := .segments false (basePath path ++ "/protocol/openid-connect/certs")
  query := none
  fragment := none

section Path

theorem foldl_addSegment {path : List Char} (h : 1 < path.length) (segments : List String) :
    segments.foldl addSegment path = path ++ segments.flatMap fun s => '/' :: s.toList := by
  induction segments generalizing path with
  | nil => exact (List.append_nil path).symm
  | cons s segments ih =>
    have hadd : addSegment path s = path ++ '/' :: s.toList := by
      rw [addSegment, if_neg (by omega), List.append_assoc]
      rfl
    have hlong : 1 < (path ++ '/' :: s.toList).length := by
      rw [List.length_append]
      omega
    rw [List.foldl_cons, hadd, ih hlong, List.append_assoc]
    rfl

theorem foldl_certsSegments {path : List Char} (h : path.head? = some '/') :
    certsSegments.foldl addSegment path =
      (if path = ['/'] then [] else path) ++ "/protocol/openid-connect/certs".toList := by
  obtain ⟨r, rfl⟩ := List.head?_eq_some_iff.mp h
  cases r with
  | nil => decide
  | cons c r =>
    rw [foldl_addSegment (by simp), if_neg (by simp)]
    rfl

theorem toList_basePath (path : String) : (basePath path).toList =
    if dropEmptySegment path.toList = ['/'] then [] else dropEmptySegment path.toList := by
  have hroot (s : String) : s = "/" ↔ s.toList = ['/'] := String.toList_inj.symm
  have hlong : path ≠ "/" ∧ path.toList.getLast? = some '/' ↔
      1 < path.toList.length ∧ path.toList.getLast? = some '/' := by
    refine and_congr_left fun hlast => ?_
    obtain ⟨r, hr⟩ := List.getLast?_eq_some_iff.mp hlast
    rw [ne_eq, hroot, hr]
    cases r <;> simp
  unfold basePath dropEmptySegment
  simp only [hlong, hroot]
  split_ifs <;> simp_all

theorem dropEmptySegment_starts {path : List Char} (h : path.head? = some '/') :
    (dropEmptySegment path).head? = some '/' := by
  obtain ⟨r, rfl⟩ := List.head?_eq_some_iff.mp h
  unfold dropEmptySegment
  split_ifs with hcut
  · cases r with
    | nil => exact absurd hcut.1 (by simp)
    | cons c r => rfl
  · rfl

theorem certsPath_eq {path : String} (h : path.toList.head? = some '/') :
    certsPath path = basePath path ++ "/protocol/openid-connect/certs" := by
  apply String.toList_injective
  rw [certsPath, String.toList_ofList, foldl_certsSegments (dropEmptySegment_starts h),
    String.toList_append, toList_basePath]

theorem basePath_slash {path : String} (h : path.toList.head? = some '/')
    (hlast : path.toList.getLast? ≠ some '/') : basePath (path ++ "/") = basePath path := by
  have hne : path.toList ≠ [] := by
    rintro hnil
    rw [hnil] at h
    cases h
  have hslash : dropEmptySegment (path ++ "/").toList = path.toList := by
    have hslash : (path ++ "/").toList = path.toList ++ ['/'] := String.toList_append
    rw [hslash, dropEmptySegment, if_pos, List.dropLast_concat]
    exact ⟨by simpa using List.length_pos_of_ne_nil hne, List.getLast?_concat⟩
  have hsame : dropEmptySegment path.toList = path.toList := if_neg fun hcut => hlast hcut.2
  apply String.toList_injective
  rw [toList_basePath, toList_basePath, hslash, hsame]

end Path

section Alias

variable {u : Address} {a : Authority}

def namedHost? (text : String) : Option Host := do
  let s := text.toList
  let s ←
    if s.head? = some '[' ∧ s.getLast? = some ']' then some s
    else if s.head? = some ':' then none
    else some (s.takeWhile (· ≠ ':'))
  specialHost? s

theorem withHost?_special (hkind : u.kind = .special) (ha : u.authority = some a) (text : String) :
    u.withHost? text =
      (namedHost? text).map fun host => { u with authority := some { a with host := some host } } := by
  unfold Address.withHost? namedHost?
  simp only [ha, hkind, host?, Option.bind_eq_bind, Option.bind_some, ne_eq, reduceCtorEq,
    not_false_eq_true, decide_true, ↓reduceIte]
  split_ifs
  · cases specialHost? text.toList <;> rfl
  · rfl
  · cases specialHost? (text.toList.takeWhile (· ≠ ':')) <;> rfl

end Alias

def found? (aliases : List (String × String)) (scheme : String) (a : Authority) (host : Host)
    (path : String) : Option Address :=
  match find? host.text aliases with
  | none => some (keysAt scheme a host path)
  | some text => (namedHost? text).map fun host => keysAt scheme a host path

section Found

variable {aliases : List (String × String)} {issuer : String} {u : Address} {a : Authority}
  {host : Host} {path : String}

theorem certsUrl_eq (hread : Address.read? (Text.trimBlank issuer) = some u)
    (hkind : u.kind = .special) (ha : u.authority = some a) (hhost : a.host = some host)
    (hpath : u.path = .segments false path) (hp : path.toList.head? = some '/') :
    certsUrl aliases issuer = match found? aliases u.scheme a host path with
      | some url => .ok url
      | none => .error (.invalidUrl issuer) := by
  have htext : u.hostText? = some host.text := by
    simp [Address.hostText?, ha, hhost]
  have hbelow (host : Host) : below { u with authority := some { a with host := some host } } =
      some (keysAt u.scheme a host path) := by
    simp [below, hpath, keysAt, certsPath_eq hp]
  have hsame : u = { u with authority := some { a with host := some host } } := by
    rw [← hhost, ← ha]
  unfold certsUrl applyAlias found?
  simp only [hread, htext, Option.bind_eq_bind, Option.bind_some]
  cases find? host.text aliases with
  | none =>
    dsimp only
    rw [Option.bind_some, hsame, hbelow host]
  | some text =>
    dsimp only
    rw [withHost?_special hkind ha]
    cases namedHost? text with
    | none => rfl
    | some host' =>
      rw [Option.map_some, Option.bind_some, hbelow host']
      rfl

structure Agrees (u u' : Address) (path : String) : Prop where
  scheme : u'.scheme = u.scheme
  authority : u'.authority = u.authority
  path : u'.path = u.path ∨
    (path.toList.getLast? ≠ some '/' ∧ u'.path = .segments false (path ++ "/"))

def Varies (path issuer issuer' : String) : Prop :=
  ∃ f slash t t', IsFront f ∧ IsTail t ∧ IsTail t' ∧
    Text.trimBlank issuer = String.ofList (f ++ t) ∧
    Text.trimBlank issuer' = String.ofList (f ++ slash ++ t') ∧
    (slash = [] ∨ slash = ['/'] ∧ path.toList.getLast? ≠ some '/')

theorem agrees_of_varies {issuer' : String} (hread : Address.read? (Text.trimBlank issuer) = some u)
    (hkind : u.kind = .special) (hpath : u.path = .segments false path)
    (h : Varies path issuer issuer') :
    ∃ u', Address.read? (Text.trimBlank issuer') = some u' ∧ Agrees u u' path := by
  obtain ⟨f, slash, t, t', hf, ht, ht', htrim, htrim', hslash⟩ := h
  rw [htrim] at hread
  rw [htrim']
  rcases hslash with rfl | ⟨rfl, hlast⟩
  · obtain ⟨query, fragment, hread'⟩ := hf.read?_tail ht ht' hread hkind
    rw [List.append_nil]
    exact ⟨_, hread', rfl, rfl, Or.inl rfl⟩
  · obtain ⟨query, fragment, hread'⟩ := hf.read?_slash ht ht' hread hkind hpath hlast
    exact ⟨_, hread', rfl, rfl, Or.inr ⟨hlast, rfl⟩⟩

theorem certsUrl_of_agrees {issuer' : String} {u' : Address}
    (hread : Address.read? (Text.trimBlank issuer) = some u)
    (hread' : Address.read? (Text.trimBlank issuer') = some u') (hkind : u.kind = .special)
    (ha : u.authority = some a) (hhost : a.host = some host) (hpath : u.path = .segments false path)
    (hp : path.toList.head? = some '/') (h : Agrees u u' path) (url : Address) :
    certsUrl aliases issuer' = .ok url ↔ certsUrl aliases issuer = .ok url := by
  have hkind' : u'.kind = .special := by
    rw [Address.kind, h.scheme]
    exact hkind
  obtain ⟨path', hpath', hp', hbase⟩ : ∃ path', u'.path = .segments false path' ∧
      path'.toList.head? = some '/' ∧ basePath path' = basePath path := by
    rcases h.path with hsame | ⟨hlast, hslash⟩
    · exact ⟨path, hsame.trans hpath, hp, rfl⟩
    · refine ⟨path ++ "/", hslash, ?_, basePath_slash hp hlast⟩
      rw [String.toList_append, List.head?_append, hp]
      rfl
  have hfound : found? aliases u'.scheme a host path' = found? aliases u.scheme a host path := by
    simp only [found?, keysAt, h.scheme, hbase]
  rw [certsUrl_eq hread hkind ha hhost hpath hp,
    certsUrl_eq hread' hkind' (h.authority.trans ha) hhost hpath' hp', hfound]
  cases found? aliases u.scheme a host path with
  | none => simp
  | some found => rfl

theorem kind_of_web (hscheme : u.scheme = "http" ∨ u.scheme = "https") : u.kind = .special := by
  rw [Address.kind]
  rcases hscheme with h | h <;> rw [h] <;> decide

theorem certsUrl_of_web (hread : Address.read? (Text.trimBlank issuer) = some u)
    (hscheme : u.scheme = "http" ∨ u.scheme = "https") (aliases : List (String × String)) :
    ∃ a host path, u.authority = some a ∧ a.host = some host ∧ u.path = .segments false path ∧
      (find? host.text aliases = none →
        certsUrl aliases issuer = .ok (keysAt u.scheme a host path)) ∧
      (∀ text, find? host.text aliases = some text →
        (u.withHost? text = none ∧ certsUrl aliases issuer = .error (.invalidUrl issuer)) ∨
        ∃ host', namedHost? text = some host' ∧
          u.withHost? text = some { u with authority := some { a with host := some host' } } ∧
          certsUrl aliases issuer = .ok (keysAt u.scheme a host' path)) ∧
      (∀ issuer' u', Address.read? (Text.trimBlank issuer') = some u' → Agrees u u' path →
        ∀ url, certsUrl aliases issuer' = .ok url ↔ certsUrl aliases issuer = .ok url) ∧
      ∀ issuer', Varies path issuer issuer' →
        ∀ url, certsUrl aliases issuer' = .ok url ↔ certsUrl aliases issuer = .ok url := by
  have hkind := kind_of_web hscheme
  obtain ⟨a, host, path, ha, hhost, hpath, hp⟩ := shape_of_read? hread hkind
  have hurl : certsUrl aliases issuer = _ := certsUrl_eq hread hkind ha hhost hpath hp
  refine ⟨a, host, path, ha, hhost, hpath, fun hnone => ?_, fun text htext => ?_,
    fun issuer' u' hread' h => ?_, fun issuer' h => ?_⟩
  · rw [hurl, found?, hnone]
  · have hfound : found? aliases u.scheme a host path =
        (namedHost? text).map fun host => keysAt u.scheme a host path := by
      rw [found?, htext]
    rw [hurl, hfound, withHost?_special hkind ha]
    cases namedHost? text with
    | none => exact Or.inl ⟨rfl, rfl⟩
    | some host' => exact Or.inr ⟨host', rfl, rfl, rfl⟩
  · exact certsUrl_of_agrees hread hread' hkind ha hhost hpath hp h
  · obtain ⟨u', hread', hagrees⟩ := agrees_of_varies hread hkind hpath h
    exact certsUrl_of_agrees hread hread' hkind ha hhost hpath hp hagrees

end Found

theorem certsUrl_of_web_alias :
    let issuer := "\u00A0http://max:pw@[::1]:8080/realms//k?a=b#c\n"
    let issuer' := "http://max:pw@[::1]:8080/realms//k/"
    let aliases := [("[2001:db8::7]", "[::2]"), ("[::1]", "[2001:DB8::7]")]
    let url : Address := ⟨"http",
      some ⟨"max", "pw", some (.ipv6 [0x2001, 0xDB8, 0, 0, 0, 0, 0, 7]), some 8080⟩,
      .segments false "/realms//k/protocol/openid-connect/certs", none, none⟩
    certsUrl aliases issuer = .ok url ∧ certsUrl aliases issuer' = .ok url := by
  intro issuer issuer' aliases url
  let u : Address := ⟨"http", some ⟨"max", "pw", some (.ipv6 [0, 0, 0, 0, 0, 0, 0, 1]), some 8080⟩,
    .segments false "/realms//k", some "a=b", some "c"⟩
  have hread : Address.read? (Text.trimBlank issuer) = some u := by decide +kernel
  obtain ⟨a, host, path, ha, hhost, hpath, _, halias, _, hvaries⟩ :=
    certsUrl_of_web hread (Or.inl rfl) aliases
  cases ha
  cases hhost
  cases hpath
  have hfound : find? (Host.ipv6 [0, 0, 0, 0, 0, 0, 0, 1]).text aliases = some "[2001:DB8::7]" := by
    decide +kernel
  have hnamed : namedHost? "[2001:DB8::7]" = some (.ipv6 [0x2001, 0xDB8, 0, 0, 0, 0, 0, 7]) := by
    decide +kernel
  have hok : certsUrl aliases issuer = .ok url := by
    rcases halias _ hfound with ⟨hnone, _⟩ | ⟨host', hhost', _, hurl⟩
    · rw [withHost?_special rfl rfl, hnamed] at hnone
      cases hnone
    · cases hnamed.symm.trans hhost'
      exact hurl
  refine ⟨hok, (hvaries issuer' ?_ url).mpr hok⟩
  refine ⟨"http://max:pw@[::1]:8080/realms//k".toList, ['/'], "?a=b#c".toList, [], ?_, ?_, ?_, ?_,
    ?_, Or.inr ⟨rfl, by decide +kernel⟩⟩
  · exact ⟨⟨by decide +kernel, by decide +kernel⟩, 'k', by decide +kernel, by decide⟩
  · intro c hc
    cases hc
    exact Or.inl rfl
  · intro c hc
    cases hc
  · decide +kernel
  · decide +kernel

end BearerCheck.Issuer
