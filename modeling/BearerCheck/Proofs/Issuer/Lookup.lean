import BearerCheck.Issuer.Endpoint
import BearerCheck.Proofs.KeySet.Selection
import Mathlib.Control.Monad.Basic

namespace BearerCheck.Issuer

open Url

def outcome (answer : Except Failure Reply) (keyId : Option String) :
    Except LookupError Certificate := do
  let reply ← answer.mapError Failure.error
  let keys ← reply.keySet
  keys.certificate keyId

def requests (aliases : List (String × String)) (issuer : String) : List Request :=
  match certsUrl aliases issuer with
  | .ok url => [certsRequest url]
  | .error _ => []

def recorded (client : Client) (request : Request) :
    StateM (List Request) (Except Failure Reply) := do
  modify (· ++ [request])
  return client request

section Run

variable {m : Type → Type} [Monad m] {ε α β : Type}

theorem run_liftM (x : Except ε α) : (liftM x : ExceptT ε m α).run = pure x := rfl

variable [LawfulMonad m]

theorem run_send_bind (x : m α) (f : α → ExceptT ε m β) :
    ((liftM x : ExceptT ε m α) >>= f).run = x >>= fun a => (f a).run := ExceptT.run_bind_lift x f

theorem run_liftM_bind {x : Except ε α} {f : α → Except ε β} {g : α → ExceptT ε m β}
    (hg : ∀ a, (g a).run = pure (f a)) :
    ((liftM x : ExceptT ε m α) >>= g).run = pure (x >>= f) := by
  rw [ExceptT.run_bind, run_liftM, pure_bind]
  cases x with
  | error e => rfl
  | ok a => exact hg a

variable {aliases : List (String × String)} {send : Request → m (Except Failure Reply)}
  {issuer : String} {keyId : Option String}

theorem run_lookup_error {e : LookupError} (h : certsUrl aliases issuer = .error e) :
    (lookup aliases send issuer keyId).run = pure (.error e) := by
  unfold lookup fetch
  rw [h, bind_assoc, ExceptT.run_bind, run_liftM, pure_bind]

theorem run_lookup_ok {url : Address} (h : certsUrl aliases issuer = .ok url) :
    (lookup aliases send issuer keyId).run =
      send (certsRequest url) >>= fun answer => pure (outcome answer keyId) := by
  have hanswer (answer : Except Failure Reply) :
      (liftM (answer.mapError Failure.error) >>= fun reply => liftM reply.keySet >>= fun keys =>
        liftM (keys.certificate keyId) : ExceptT LookupError m Certificate).run =
          pure (outcome answer keyId) :=
    run_liftM_bind fun reply => run_liftM_bind fun keys => run_liftM _
  unfold lookup fetch
  rw [h]
  simp only [bind_assoc]
  rw [ExceptT.run_bind, run_liftM, pure_bind]
  dsimp only
  rw [run_send_bind]
  exact bind_congr hanswer

end Run

theorem certsUrl_error {aliases : List (String × String)} {issuer : String} {e : LookupError}
    (h : certsUrl aliases issuer = .error e) : e = .invalidUrl issuer := by
  unfold certsUrl at h
  dsimp only at h
  split at h <;> cases h
  rfl

section Record

variable {aliases : List (String × String)} {issuer : String}

theorem resolve_error {e : LookupError} (h : certsUrl aliases issuer = .error e) (client : Client)
    (keyId : Option String) : resolve aliases client issuer keyId = .error e := by
  unfold resolve
  rw [run_lookup_error h]
  rfl

theorem resolve_ok {url : Address} (h : certsUrl aliases issuer = .ok url) (client : Client)
    (keyId : Option String) :
    resolve aliases client issuer keyId = outcome (client (certsRequest url)) keyId := by
  unfold resolve
  rw [run_lookup_ok h]
  rfl

theorem run_lookup_recorded (client : Client) (keyId : Option String) (made : List Request) :
    (lookup aliases (recorded client) issuer keyId).run.run made =
      (resolve aliases client issuer keyId, made ++ requests aliases issuer) := by
  unfold requests
  cases h : certsUrl aliases issuer with
  | error e =>
    rw [run_lookup_error h, resolve_error h, List.append_nil]
    rfl
  | ok url =>
    rw [run_lookup_ok h, resolve_ok h]
    rfl

end Record

section Outcome

variable {status : Nat} {bytes : List UInt8} {keyId : Option String}

def Failure.InTransport (f : Failure) : Prop :=
  f.timedOut = true ∨ (f.undecoded = false ∧ f.status = none)

theorem Failure.InTransport.error {f : Failure} (h : f.InTransport) :
    f.error = .timeout ∨ f.error = .request f.reason := by
  unfold Failure.error
  rcases h with htime | ⟨hdecoded, hstatus⟩
  · exact Or.inl (if_pos htime)
  · rw [hdecoded, hstatus]
    cases f.timedOut with
    | true => exact Or.inl rfl
    | false => exact Or.inr rfl

theorem keySet_of_success (h : 200 ≤ status ∧ status ≤ 299) (body : Except Failure (List UInt8)) :
    Reply.keySet ⟨status, body⟩ = body.mapError Failure.error >>= fun bytes =>
      (KeySet.read bytes).mapError fun e => .notKeySet e.message := if_pos h

theorem outcome_of_reply (a : Reply) (keyId : Option String) :
    outcome (.ok a) keyId = a.keySet >>= fun keys => keys.certificate keyId := rfl

theorem outcome_status (h : ¬ (200 ≤ status ∧ status ≤ 299)) (body : Except Failure (List UInt8)) :
    outcome (.ok ⟨status, body⟩) keyId = .error (.status status) := by
  have hkeys : Reply.keySet ⟨status, body⟩ = .error (.status status) := if_neg h
  rw [outcome_of_reply, hkeys]
  rfl

theorem outcome_cut (h : 200 ≤ status ∧ status ≤ 299) (f : Failure) :
    outcome (.ok ⟨status, .error f⟩) keyId = .error f.error := by
  rw [outcome_of_reply, keySet_of_success h]
  rfl

theorem outcome_notKeySet (h : 200 ≤ status ∧ status ≤ 299) {e : Json.Error}
    (hread : KeySet.read bytes = .error e) :
    outcome (.ok ⟨status, .ok bytes⟩) keyId = .error (.notKeySet e.message) := by
  rw [outcome_of_reply, keySet_of_success h]
  change ((KeySet.read bytes).mapError _ >>= _) = _
  rw [hread]
  rfl

theorem outcome_keySet (h : 200 ≤ status ∧ status ≤ 299) {keys : KeySet}
    (hread : KeySet.read bytes = .ok keys) :
    outcome (.ok ⟨status, .ok bytes⟩) keyId = keys.certificate keyId := by
  rw [outcome_of_reply, keySet_of_success h]
  change ((KeySet.read bytes).mapError _ >>= _) = _
  rw [hread]
  rfl

theorem outcome_eq_ok {answer : Except Failure Reply} {c : Certificate}
    (h : outcome answer keyId = .ok c) : ∃ status bytes keys,
      answer = .ok ⟨status, .ok bytes⟩ ∧ (200 ≤ status ∧ status ≤ 299) ∧
        KeySet.read bytes = .ok keys ∧ keys.certificate keyId = .ok c := by
  obtain ⟨⟨status, body⟩, hanswer, h⟩ := bind_eq_ok.mp h
  obtain ⟨keys, hkeys, hcertificate⟩ := bind_eq_ok.mp h
  by_cases hstatus : 200 ≤ status ∧ status ≤ 299
  · rw [keySet_of_success hstatus] at hkeys
    obtain ⟨bytes, hbody, hread⟩ := bind_eq_ok.mp hkeys
    obtain rfl := mapError_eq_ok.mp hbody
    exact ⟨status, bytes, keys, mapError_eq_ok.mp hanswer, hstatus, mapError_eq_ok.mp hread,
      hcertificate⟩
  · rw [Reply.keySet, if_neg hstatus] at hkeys
    cases hkeys

end Outcome

theorem lookup_exchange {m : Type → Type} [Monad m] [LawfulMonad m]
    (send : Request → m (Except Failure Reply)) (aliases : List (String × String)) (issuer : String)
    (keyId : Option String) :
    (∀ e, certsUrl aliases issuer = .error e →
      e = .invalidUrl issuer ∧ (lookup aliases send issuer keyId).run = pure (.error e)) ∧
    (∀ url, certsUrl aliases issuer = .ok url →
      (lookup aliases send issuer keyId).run =
        send (certsRequest url) >>= fun answer => pure (outcome answer keyId)) ∧
    (∀ client made, (lookup aliases (recorded client) issuer keyId).run.run made =
      (resolve aliases client issuer keyId, made ++ requests aliases issuer)) ∧
    (∀ f, outcome (.error f) keyId = .error f.error ∧
      (f.InTransport → f.error = .timeout ∨ f.error = .request f.reason)) ∧
    (∀ status body, ¬ (200 ≤ status ∧ status ≤ 299) →
      outcome (.ok ⟨status, body⟩) keyId = .error (.status status)) ∧
    (∀ status, 200 ≤ status ∧ status ≤ 299 →
      (∀ f, outcome (.ok ⟨status, .error f⟩) keyId = .error f.error) ∧
      (∀ bytes e, KeySet.read bytes = .error e →
        outcome (.ok ⟨status, .ok bytes⟩) keyId = .error (.notKeySet e.message)) ∧
      ∀ bytes keys, KeySet.read bytes = .ok keys →
        outcome (.ok ⟨status, .ok bytes⟩) keyId = keys.certificate keyId) ∧
    ∀ answer c, outcome answer keyId = .ok c → ∃ status bytes keys k,
      answer = .ok ⟨status, .ok bytes⟩ ∧ (200 ≤ status ∧ status ≤ 299) ∧
        KeySet.read bytes = .ok keys ∧ k ∈ keys.keys ∧ k.keyId = c.keyId ∧
          k.chain.head? = some c.text ∧ ∀ i, keyId = some i → c.keyId = i := by
  refine ⟨fun e h => ⟨certsUrl_error h, run_lookup_error h⟩, fun url h => run_lookup_ok h,
    fun client made => run_lookup_recorded client keyId made,
    fun f => ⟨rfl, Failure.InTransport.error⟩, fun status body h => outcome_status h body,
    fun status h => ⟨outcome_cut h, fun bytes e => outcome_notKeySet h,
      fun bytes keys => outcome_keySet h⟩, fun answer c h => ?_⟩
  obtain ⟨status, bytes, keys, hanswer, hstatus, hread, hcertificate⟩ := outcome_eq_ok h
  obtain ⟨k, hk, hid, htext, hhint⟩ := KeySet.certificate_eq_ok hcertificate
  exact ⟨status, bytes, keys, k, hanswer, hstatus, hread, hk, hid, htext, hhint⟩

theorem lookup_exchange_partial_content :
    let aliases := [("idp", "127.0.0.1")]
    let issuer := "http://idp:8080/realms/kafka/"
    let body := Text.Utf8.encode
      "\x7b\"keys\":[\x7b\"kid\":\"a\"\x7d,\x7b\"kid\":\"b\",\"x5c\":[\"MII\"]\x7d]\x7d"
    let client : Client := fun _ => .ok ⟨206, .ok body⟩
    let url : Address := ⟨"http", some ⟨"", "", some (.ipv4 0x7F000001), some 8080⟩,
      .segments false "/realms/kafka/protocol/openid-connect/certs", none, none⟩
    (lookup aliases (recorded client) issuer (some "b")).run.run [] =
      (.ok ⟨"MII", "b"⟩, [⟨"GET", url, "application/json"⟩]) := by
  intro aliases issuer body client url
  have hurl : certsUrl aliases issuer = .ok url := by decide +kernel
  let keys : KeySet :=
    ⟨[{ Key.empty with keyId := "a" }, { Key.empty with keyId := "b", chain := ["MII"] }]⟩
  have hread : KeySet.read body = .ok keys := by decide +kernel
  obtain ⟨_, hok, _, _, _, hsuccess, _⟩ :=
    lookup_exchange (recorded client) aliases issuer (some "b")
  rw [hok url hurl]
  change (outcome (.ok ⟨206, .ok body⟩) (some "b"), [certsRequest url]) = _
  rw [(hsuccess 206 (by decide)).2.2 body keys hread]
  rfl

end BearerCheck.Issuer
