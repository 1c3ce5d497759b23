import BearerCheck.Proofs.Json.Written
import BearerCheck.Proofs.Token.Canonical
import Mathlib.Data.List.Permutation

/-!
A header with an algorithm and a key ID that is no string. If the key ID stands for a value, the
header is read as one without it. If it does not, the token is refused, although what the key ID is
plays no part.
-/

namespace BearerCheck.Token

open Json Text

def Between (v r : List UInt8) : Phrase := fun s t => s = v ∧ t = r

namespace Header

/-- What a member makes of a header, where the value of `alg` is `a` and reading the value of `kid`
has the result `kid`. -/
def withMember (a : String) (kid : Except Json.Error Value) (h : Header) (name : String) :
    Except Json.Error Header :=
  if name = "alg" then .ok { h with algorithm := a }
  else kid.map fun v => { h with keyId := v.string? }

def takeMember (a : String) (kid : Except Json.Error Value) (x : List String × Header)
    (m : String × Phrase) : Except Json.Error (List String × Header) :=
  if m.1 ∈ x.1 then .error (.duplicate m.1)
  else (withMember a kid x.2 m.1).map fun h => (m.1 :: x.1, h)

variable {a : String} {kid : Except Json.Error Value} {x : List String × Header}
  {s t u v r bs : List UInt8} {ms : List (String × Phrase)}

theorem step_alg (hs : skipSpace s = Ascii.colon :: t) (ha : StringIs a t u) (hu : EndsNumber u) :
    record.step x "alg" s =
      (takeMember a kid x ("alg", StringIs a)).map fun y => (y, u) := by
  refine step_known rfl hs ?_
  dsimp only
  rw [string_of_stringIs ha hu]
  rfl

theorem step_kid (hs : skipSpace s = Ascii.colon :: v)
    (hkid : value (depthLimit - 1) v = kid.map fun x => (x, r)) :
    record.step x "kid" s = (takeMember a kid x ("kid", Between v r)).map fun y => (y, r) := by
  refine step_known rfl hs ?_
  dsimp only
  rw [hkid]
  cases kid <;> rfl

theorem read_of_members (hv : r.length ≤ v.length)
    (hkid : EndsNumber r → value (depthLimit - 1) v = kid.map fun x => (x, r))
    (hms : ∀ m ∈ ms, m = ("alg", StringIs a) ∨ m = ("kid", Between v r))
    (h : IsObjectOf Prod.fst Prod.snd ms bs) :
    read bs = (ms.foldlM (takeMember a kid) ([], ⟨"", none⟩)).map (·.2) := by
  refine document_row ?_ ?_ h _
  · intro m hm s t hphrase
    rcases hms m hm with rfl | rfl
    · obtain ⟨u, hu, ha⟩ := hphrase
      exact (ha.stringAt.length_lt.trans (length_lt_of_skipSpace hu)).le
    · obtain ⟨rfl, rfl⟩ := hphrase
      exact hv
  · intro x m hm s t u hs hphrase hu
    rcases hms m hm with rfl | rfl
    · exact step_alg hs hphrase hu
    · obtain ⟨rfl, rfl⟩ := hphrase
      exact step_kid hs (hkid hu)

def HasKeyId (a : String) (v r bs : List UInt8) : Prop :=
  ∃ ms, List.Perm ms [("alg", StringIs a), ("kid", Between v r)] ∧
    IsObjectOf Prod.fst Prod.snd ms bs

theorem read_of_hasKeyId (hv : r.length ≤ v.length)
    (hkid : EndsNumber r → value (depthLimit - 1) v = kid.map fun x => (x, r))
    (h : HasKeyId a v r bs) : read bs = kid.map fun x => ⟨a, x.string?⟩ := by
  obtain ⟨ms, hms, hobject⟩ := h
  have hmem : ∀ m ∈ ms, m = ("alg", StringIs a) ∨ m = ("kid", Between v r) := by
    intro m hm
    simpa using hms.mem_iff.mp hm
  rw [read_of_members hv hkid hmem hobject]
  rcases List.perm_pair.mp hms with rfl | rfl <;>
    cases kid <;> rfl

theorem read_of_alg (h : IsObjectOf Prod.fst Prod.snd [("alg", StringIs a)] bs) :
    read bs = .ok ⟨a, none⟩ := by
  -- no key ID is read, so that any would do
  have hkid : value (depthLimit - 1) [] = (Except.error .endOfValue : Except _ Value).map (·, []) := rfl
  rw [read_of_members (a := a) (le_refl _) (fun _ => hkid) (by simp) h]
  rfl

end Header

theorem decode_of_carries {token : String} {header payload : List UInt8} {c : Claims}
    (h : Carries token header payload) (hc : Claims.read payload = .ok c) :
    decode token = ((Header.read header).mapError (.json .header)).map fun h => (h, c) := by
  obtain ⟨hs, ps, rest, he, hh, hp⟩ := h
  unfold decode
  simp only [he, readSegment, hh, hp, hc, bind, Except.bind]
  cases Header.read header <;> rfl

def Meaningful (v r : List UInt8) : Prop := ∃ x, Denotes (depthLimit - 1) x v r

theorem decode_keyId_no_string {token : String} {header payload : List UInt8} {a : String}
    {c : Claims} {v r : List UInt8} (htoken : Carries token header payload)
    (hc : Claims.read payload = .ok c) (hheader : Header.HasKeyId a v r header)
    (hv : ValueAt v r) (hno : ¬ OpensString v) :
    (Meaningful v r → decode token = .ok (⟨a, none⟩, c)) ∧
      (¬ Meaningful v r → ∃ e ∈ meaningless, decode token = .error (.json .header e)) ∧
      ∀ token' header', Carries token' header' payload →
        IsObjectOf Prod.fst Prod.snd [("alg", StringIs a)] header' →
        decode token' = .ok (⟨a, none⟩, c) := by
  refine ⟨?_, ?_, ?_⟩
  · rintro ⟨x, hx⟩
    have hkid (hr : EndsNumber r) : value (depthLimit - 1) v = (Except.ok x).map (·, r) :=
      value_of_denotes hx hr
    rw [decode_of_carries htoken hc, Header.read_of_hasKeyId hv.length_lt.le hkid hheader]
    simp only [Except.map, string?_of_denotes hx hno]
    rfl
  · intro hnone
    -- what follows the key ID ends a number, which only the reader of the header gets to see
    obtain ⟨e, he, herror⟩ : ∃ e ∈ meaningless, EndsNumber r →
        value (depthLimit - 1) v = .error e := by
      by_cases hr : EndsNumber r
      · rcases value_meaning _ v r hv hr with hx | ⟨e, he, herror⟩
        · exact absurd hx hnone
        · exact ⟨e, he, fun _ => herror⟩
      · exact ⟨.tooDeep, by decide, fun h => absurd h hr⟩
    have hkid (hr : EndsNumber r) :
        value (depthLimit - 1) v = (Except.error e : Except _ Value).map (·, r) := herror hr
    refine ⟨e, he, ?_⟩
    rw [decode_of_carries htoken hc, Header.read_of_hasKeyId hv.length_lt.le hkid hheader]
    rfl
  · intro token' header' htoken' hheader'
    rw [decode_of_carries htoken' hc, Header.read_of_alg hheader']
    rfl

section Written

theorem Header.isObjectOf_alg (a : String) :
    IsObjectOf Prod.fst Prod.snd [("alg", StringIs a)] (objectOf [("alg", quote a)]) := by
  let ms := [("alg", StringIs a)]
  have h : IsObjectOf Prod.fst Prod.snd ms (objectOf (ms.map fun m => (m.1, quote a))) :=
    isObjectOf_objectOf (by simpa [ms] using stringIs_quote a)
  exact h

theorem Header.hasKeyId_objectOf (a : String) (kid : List UInt8) :
    HasKeyId a (kid ++ [Ascii.closeBrace]) [Ascii.closeBrace]
      (objectOf [("alg", quote a), ("kid", kid)]) := by
  refine ⟨_, .refl _, quote "alg" ++ Ascii.colon :: (quote a ++ Ascii.comma ::
    (quote "kid" ++ Ascii.colon :: (kid ++ [Ascii.closeBrace]))), [], ?_, ?_, rfl⟩
  · simp [objectOf, member]
    rfl
  · exact .next rfl ⟨_, nameIs_quote _ _, stringIs_quote a _⟩
      (.next rfl ⟨_, nameIs_quote _ _, rfl, rfl⟩ (.close rfl))

end Written

theorem decode_keyId_array :
    let kid := Utf8.encode "[-2.5e3, \x7b\"k\\u0069d\": []\x7d]"
    let header := objectOf [("alg", quote "RS256"), ("kid", kid)]
    let header' := objectOf [("alg", quote "RS256")]
    let payload := [Ascii.openBrace, Ascii.closeBrace]
    let v := kid ++ [Ascii.closeBrace]
    let r := [Ascii.closeBrace]
    let token := String.ofList (encodeSegment header ++ '.' :: encodeSegment payload)
    let token' := String.ofList (encodeSegment header' ++ '.' :: encodeSegment payload)
    Carries token header payload ∧ Claims.read payload = .ok .empty ∧
      Header.HasKeyId "RS256" v r header ∧ ValueAt v r ∧ ¬ OpensString v ∧ Meaningful v r ∧
      decode token = .ok (⟨"RS256", none⟩, .empty) ∧
      decode token' = .ok (⟨"RS256", none⟩, .empty) := by
  intro kid header header' payload v r token token'
  have htoken : Carries token header payload := carries_encodeSegment header payload
  have htoken' : Carries token' header' payload := carries_encodeSegment header' payload
  have hc : Claims.read payload = .ok .empty := rfl
  have hheader : Header.HasKeyId "RS256" v r header := Header.hasKeyId_objectOf _ _
  have hskim : skim v = .ok r := by decide +kernel
  have hv : ValueAt v r := skim_sound hskim
  have hno : ¬ OpensString v := by decide +kernel
  have hmeaningful : Meaningful v r := by
    have hread : (value (depthLimit - 1) v).isOk = true := by decide +kernel
    have hends : EndsNumber r := endsNumber_of_skipSpace (t := []) rfl (Or.inr (Or.inl rfl))
    refine (value_meaning _ v r hv hends).resolve_right ?_
    rintro ⟨e, _, herror⟩
    rw [herror] at hread
    cases hread
  obtain ⟨hdecode, _, halone⟩ := decode_keyId_no_string htoken hc hheader hv hno
  exact ⟨htoken, hc, hheader, hv, hno, hmeaningful, hdecode hmeaningful,
    halone token' header' htoken' (Header.isObjectOf_alg "RS256")⟩

theorem decode_keyId_out_of_range :
    let kid := Utf8.encode "1e999"
    let header := objectOf [("alg", quote "RS256"), ("kid", kid)]
    let payload := [Ascii.openBrace, Ascii.closeBrace]
    let v := kid ++ [Ascii.closeBrace]
    let r := [Ascii.closeBrace]
    let token := "eyJhbGciOiJSUzI1NiIsImtpZCI6MWU5OTl9.e30"
    Carries token header payload ∧ Claims.read payload = .ok .empty ∧
      Header.HasKeyId "RS256" v r header ∧ ValueAt v r ∧ ¬ OpensString v ∧
      decode token = .error (.json .header .numberRange) := by
  intro kid header payload v r token
  have htoken : Carries token header payload :=
    ⟨encodeSegment header, encodeSegment payload, [], by decide +kernel,
      segmentBytes_encodeSegment _ _, segmentBytes_encodeSegment _ _⟩
  have hskim : skim v = .ok r := by decide +kernel
  have hno : ¬ OpensString v := by decide +kernel
  have hread : Header.read header = .error .numberRange := by decide +kernel
  refine ⟨htoken, rfl, Header.hasKeyId_objectOf _ _, skim_sound hskim, hno, ?_⟩
  rw [decode_of_carries htoken rfl, hread]
  rfl

end BearerCheck.Token
