import BearerCheck.Proofs.Issuer.Endpoint
import BearerCheck.Proofs.Url.Word
import BearerCheck.Settings.Basic

/-!
Aliases of hosts that are one word. The host of an issuer is looked up in small letters, and the
host of an alias stays as it was written: an alias takes effect if it was written in small letters.
-/

namespace BearerCheck.Issuer

open Url Dictionary

def smallName (s : String) : String := String.ofList (small s.toList)

section Word

variable {source target text path : String} {port : Nat}

theorem smallName_eq (h : IsSmallWord source.toList) : smallName source = source := by
  rw [smallName, h.small_eq, String.ofList_toList]

theorem isSmallWord_smallName (h : IsWord source.toList) :
    IsSmallWord (smallName source).toList := by
  rw [smallName, String.toList_ofList]
  exact h.isSmallWord_small

theorem namedHost?_word (h : IsWord source.toList) :
    namedHost? source = some (.name (smallName source)) := by
  have hbracket : source.toList.head? ≠ some '[' := fun he =>
    h.not_mem rfl (List.mem_of_mem_head? he)
  have hcolon : source.toList.head? ≠ some ':' := fun he =>
    h.not_mem rfl (List.mem_of_mem_head? he)
  have hwhole : source.toList.takeWhile (· ≠ ':') = source.toList := by
    refine List.takeWhile_eq_self_iff.mpr fun c hc => ?_
    simpa using ne_of_isAlpha (d := ':') rfl (h.2 c hc)
  simp only [namedHost?, hbracket, hcolon, hwhole, false_and, if_false, Option.bind_eq_bind,
    Option.bind_some, specialHost?_word h, smallName]

theorem issuer_webText (source path : String) (port : Nat) :
    "http://" ++ source ++ ":" ++ toString port ++ path =
      String.ofList (webText source.toList port ++ path.toList) := by
  have hmark : "http://".toList = webMark := by decide
  have hcolon : ":".toList = [':'] := by decide
  have hport : (toString port).toList = Nat.toDigits 10 port := by
    rw [Nat.toString_eq_ofList_toDigits, String.toList_ofList]
  apply String.toList_injective
  simp only [String.toList_append, String.toList_ofList, webText, wordText, hmark, hcolon, hport,
    List.append_assoc, List.cons_append, List.nil_append]

def placedName (aliases : List (String × String)) (source : String) : String :=
  (find? (smallName source) aliases).getD (smallName source)

theorem found?_name (aliases : List (String × String)) (hsource : IsWord source.toList)
    (scheme : String) (a : Authority) (p : String) :
    found? aliases scheme a (.name (smallName source)) p =
      (namedHost? (placedName aliases source)).map fun host => keysAt scheme a host p := by
  have htext : (Host.name (smallName source)).text = smallName source := rfl
  have hsmall := isSmallWord_smallName hsource
  rw [found?, htext, placedName]
  cases find? (smallName source) aliases with
  | none =>
    rw [Option.getD_none, namedHost?_word hsmall.isWord, smallName_eq hsmall, Option.map_some]
  | some text => rfl

theorem certsUrl_word (hsource : IsWord source.toList) (hport : port ≤ 65535)
    (hpath : IsRest path.toList) (aliases : List (String × String)) :
    ∃ p, certsUrl aliases ("http://" ++ source ++ ":" ++ toString port ++ path) =
      match namedHost? (placedName aliases source) with
      | some host => .ok (keysAt "http" (wordAuthority source.toList port) host p)
      | none => .error
          (.invalidUrl ("http://" ++ source ++ ":" ++ toString port ++ path)) := by
  obtain ⟨whole, query, fragment, hread⟩ := read?_webText hsource hport hpath
  rw [← issuer_webText] at hread
  have hkind : Kind.ofScheme "http" = .special := by decide
  obtain ⟨a, host, p, ha, hhost, hwhole, hp⟩ := shape_of_read? hread hkind
  cases ha
  cases hhost
  refine ⟨p, (certsUrl_eq hread hkind rfl rfl hwhole hp).trans ?_⟩
  rw [← smallName, found?_name aliases hsource]
  cases namedHost? (placedName aliases source) <;> rfl

theorem hostText?_keysAt (scheme : String) (a : Authority) (host : Host) (p : String) :
    (keysAt scheme a host p).hostText? = some host.text := rfl

theorem alias_taken (hsource : IsWord source.toList) (hport : port ≤ 65535)
    (hpath : IsRest path.toList) (aliases : List (String × String)) :
    let issuer := "http://" ++ source ++ ":" ++ toString port ++ path
    (∀ target, IsSmallWord source.toList → IsSmallWord target.toList →
      find? source aliases = some target →
        ∃ url, certsUrl aliases issuer = .ok url ∧ url.hostText? = some target) ∧
      ∀ text, (∃ url, certsUrl aliases issuer = .ok url ∧ url.hostText? = some text) ↔
        (namedHost? (placedName aliases source)).map Host.text = some text := by
  intro issuer
  obtain ⟨p, hurl⟩ := certsUrl_word hsource hport hpath aliases
  have hexact (text : String) : (∃ url, certsUrl aliases issuer = .ok url ∧
      url.hostText? = some text) ↔ (namedHost? (placedName aliases source)).map Host.text =
        some text := by
    rw [hurl]
    cases namedHost? (placedName aliases source) with
    | none => simp
    | some host => simp [hostText?_keysAt]
  refine ⟨fun target hsmall htarget hfind => (hexact target).mpr ?_, hexact⟩
  have hplaced : placedName aliases source = target := by
    rw [placedName, smallName_eq hsmall, hfind, Option.getD_some]
  rw [hplaced, namedHost?_word htarget.isWord, smallName_eq htarget]
  rfl

end Word

theorem alias_taken_keycloak :
    let aliases := [("idp", "localhost"), ("keycloak", "idp")]
    ∃ url, certsUrl aliases ("http://" ++ "keycloak" ++ ":" ++ toString 8080 ++ "/realms/kafka") =
      .ok url ∧ url.hostText? = some "idp" := by
  intro aliases
  have hsource : IsSmallWord "keycloak".toList := by decide
  have hport : 8080 ≤ 65535 := by decide
  have hrest : IsRest "/realms/kafka".toList := by decide
  obtain ⟨htaken, _⟩ := alias_taken hsource.isWord hport hrest aliases
  exact htaken "idp" hsource (by decide) rfl

theorem capital_alias_missed :
    let settings : Settings := { certs := { aliases := [("Localhost", "idp")] } }
    let issuer := "http://" ++ "Localhost" ++ ":" ++ toString 8080 ++ "/realms/kafka"
    settings.flaw? = none ∧ IsWord "Localhost".toList ∧ IsSmallWord "idp".toList ∧
      IsRest "/realms/kafka".toList ∧ find? "Localhost" settings.certs.aliases = some "idp" ∧
      ∃ url, certsUrl settings.certs.aliases issuer = .ok url ∧
        url.hostText? = some "localhost" := by
  intro settings issuer
  let url : Address := ⟨"http", some ⟨"", "", some (.name "localhost"), some 8080⟩,
    .segments false "/realms/kafka/protocol/openid-connect/certs", none, none⟩
  have hurl : certsUrl settings.certs.aliases issuer = .ok url := by decide +kernel
  have hsource : IsWord "Localhost".toList := by decide
  have htarget : IsSmallWord "idp".toList := by decide
  have hrest : IsRest "/realms/kafka".toList := by decide
  exact ⟨by decide, hsource, htarget, hrest, rfl, url, hurl, rfl⟩

end BearerCheck.Issuer
