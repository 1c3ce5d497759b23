import BearerCheck.Proofs.Json.Follows
import BearerCheck.Proofs.Token.Decoding

namespace BearerCheck.Token

open Json

def passOver {σ α : Type} (name : String) (read : Reader α) : Member σ :=
  ⟨name, fun x s => (read s).map fun (_, r) => (x, r)⟩

def given (name : String) : Member (Option Value) :=
  ⟨name, fun _ s => (value (depthLimit - 1) s).map fun (v, r) => (some v, r)⟩

def keyIdRecord : Record (Option Value) where
  title := "a header"
  known := [passOver "alg" string, given "kid"]
  other := ignore
  positional := true

def issuerRecord : Record (Option Value) where
  title := "claims"
  known := [passOver "sub" (Json.optional string), passOver "iat" (Json.optional real),
    passOver "exp" (Json.optional real), given "iss"]
  other := fun x _ s => do
    let (_, r) ← value (depthLimit - 1) (← afterColon s)
    .ok (x, r)
  positional := false

def valueGiven? (d : Record (Option Value)) (name : Segment) (segment : List Char) : Option Value :=
  (segmentBytes name segment).toOption.bind fun bytes =>
    (document (d.read none) bytes).toOption.join

def keyIdGiven? (token : String) : Option Value :=
  match segments token.toList with
  | hs :: _ => valueGiven? keyIdRecord .header hs
  | [] => none

def issuerGiven? (token : String) : Option Value :=
  match segments token.toList with
  | _ :: ps :: _ => valueGiven? issuerRecord .payload ps
  | _ => none

theorem string_eq_ok {s r : List UInt8} {t : String} (h : string s = .ok (t, r)) :
    start s = .ok (.scalar (.string t), r) := by
  unfold string at h
  split at h
  · next hs =>
    cases h
    exact hs
  · cases h

theorem value_of_optional_string {s r : List UInt8} {t : Option String}
    (h : Json.optional string s = .ok (t, r)) (depth : Nat) :
    ∃ v, value depth s = .ok (v, r) ∧ v.string? = t := by
  unfold Json.optional at h
  split at h
  · next hs =>
    cases h
    exact ⟨_, value_of_start hs depth, rfl⟩
  · obtain ⟨⟨t, u⟩, ht, he⟩ := map_eq_ok.mp h
    cases he
    exact ⟨_, value_of_start (string_eq_ok ht) depth, rfl⟩

theorem passOver_follows {σ τ α : Type} {R : σ → τ → Prop} (write : σ → α → σ)
    (hwrite : ∀ x x' a, R x x' → R (write x a) x') (name : String) (read : Reader α) :
    Follows R (fun x s => (read s).map fun (a, r) => (write x a, r)) (passOver name read).read := by
  intro x x' s y r hx hread
  obtain ⟨⟨a, u⟩, ha, he⟩ := map_eq_ok.mp hread
  cases he
  exact ⟨x', map_eq_ok.mpr ⟨_, ha, rfl⟩, hwrite x x' a hx⟩

def Header.Holds (h : Header) (v : Option Value) : Prop := h.keyId = v.bind Value.string?

theorem Header.record_follows : Record.RecordFollows Header.Holds Header.record keyIdRecord where
  known := by
    refine .cons ⟨rfl, ?_⟩ (.cons ⟨rfl, ?_⟩ .nil)
    · exact passOver_follows (fun (h : Header) a => { h with algorithm := a }) (fun _ _ _ hv => hv) _ _
    · intro h v s h' r hv hread
      obtain ⟨⟨w, u⟩, hw, he⟩ := map_eq_ok.mp hread
      cases he
      exact ⟨some w, map_eq_ok.mpr ⟨_, hw, rfl⟩, rfl⟩
  other := by
    intro name h v s h' r hv hread
    obtain ⟨t, ht, hread⟩ := bind_eq_ok.mp hread
    obtain ⟨u, hu, hread⟩ := bind_eq_ok.mp hread
    cases hread
    exact ⟨v, bind_eq_ok.mpr ⟨t, ht, bind_eq_ok.mpr ⟨_, hu, rfl⟩⟩, hv⟩
  positional := rfl

def Claims.Holds (c : Claims) (v : Option Value) : Prop := c.issuer = v.bind Value.string?

theorem Claims.record_follows : Record.RecordFollows Claims.Holds Claims.record issuerRecord where
  known := by
    refine .cons ⟨rfl, ?_⟩ (.cons ⟨rfl, ?_⟩ (.cons ⟨rfl, ?_⟩ (.cons ⟨rfl, ?_⟩ .nil)))
    · exact passOver_follows (fun (c : Claims) x => { c with subject := x }) (fun _ _ _ hv => hv) _ _
    · exact passOver_follows (fun (c : Claims) x => { c with issuedAt := x }) (fun _ _ _ hv => hv) _ _
    · exact passOver_follows (fun (c : Claims) x => { c with expiresAt := x }) (fun _ _ _ hv => hv) _ _
    · intro c v s c' r hv hread
      obtain ⟨⟨t, u⟩, ht, he⟩ := map_eq_ok.mp hread
      cases he
      obtain ⟨w, hw, hstring⟩ := value_of_optional_string ht (depthLimit - 1)
      exact ⟨some w, map_eq_ok.mpr ⟨_, hw, rfl⟩, hstring.symm⟩
  other := by
    intro name c v s c' r hv hread
    obtain ⟨⟨ms, u⟩, hms, he⟩ := map_eq_ok.mp hread
    cases he
    obtain ⟨t, ht, hms⟩ := bind_eq_ok.mp hms
    obtain ⟨⟨w, u⟩, hw, hms⟩ := bind_eq_ok.mp hms
    cases hms
    exact ⟨v, bind_eq_ok.mpr ⟨t, ht, bind_eq_ok.mpr ⟨_, hw, rfl⟩⟩, hv⟩
  positional := rfl

theorem keyId_given {token : String} {h : Header} {c : Claims} (hd : decode token = .ok (h, c)) :
    h.keyId = (keyIdGiven? token).bind Value.string? := by
  obtain ⟨hs, ps, rest, he, hh, _⟩ := decode_eq_ok.mp hd
  obtain ⟨bytes, hb, hread⟩ := readSegment_eq_ok.mp hh
  have hnone : Header.Holds ⟨"", none⟩ none := rfl
  obtain ⟨v, hv, hkeyId⟩ := Record.document_follows Header.record_follows hnone hread
  rw [Header.Holds] at hkeyId
  simpa [keyIdGiven?, valueGiven?, he, hb, hv, Except.toOption] using hkeyId

theorem issuer_given {token : String} {h : Header} {c : Claims} (hd : decode token = .ok (h, c)) :
    c.issuer = (issuerGiven? token).bind Value.string? := by
  obtain ⟨hs, ps, rest, he, _, hc⟩ := decode_eq_ok.mp hd
  obtain ⟨bytes, hb, hread⟩ := readSegment_eq_ok.mp hc
  have hnone : Claims.Holds .empty none := rfl
  obtain ⟨v, hv, hissuer⟩ := Record.document_follows Claims.record_follows hnone hread
  rw [Claims.Holds] at hissuer
  simpa [issuerGiven?, valueGiven?, he, hb, hv, Except.toOption] using hissuer

end BearerCheck.Token
