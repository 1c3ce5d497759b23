import BearerCheck.Proofs.Token.Given
import BearerCheck.Proofs.Verifier.Checks

namespace BearerCheck

open Token Json

namespace FirstFrom

variable {fails : Nat → Prop} {k n : Nat}

theorem passes_below {m : Nat} (hk : 0 < k) (hn : FirstFrom fails k n) (hm : n = 0 ∨ m ≤ n) :
    ∀ j, k ≤ j → j < m → ¬ fails j := by
  rcases hn with ⟨_, hall⟩ | ⟨hle, _, hall⟩
  · exact fun j hj _ => hall j hj
  · exact fun j hj hjm => hall j hj (by omega)

theorem fails_of_pos (hn : FirstFrom fails k n) (hpos : 0 < n) : fails n := by
  rcases hn with ⟨h0, _⟩ | ⟨_, hf, _⟩
  · omega
  · exact hf

end FirstFrom

namespace Policy

theorem refusal_code {p : Policy} {h : Header} {c : Claims} {s : Status}
    (hs : p.refusal? h c = some s) : s.code ∈ Set.Icc 3 6 := by
  unfold refusal? at hs
  split_ifs at hs <;> cases hs <;> simp [Status.code]

theorem window_code (p : Policy) (now : Int64) (c : Claims) :
    (p.window now c).code = 0 ∨ 7 ≤ (p.window now c).code := by
  unfold window
  split_ifs <;> simp [Status.code]

theorem passes_iff (p : Policy) (now : Int64) (token : String) :
    (∀ k ∈ Set.Icc 1 6, ¬ p.Fails now token k) ↔
      ∃ h c, decode token = .ok (h, c) ∧ p.refusal? h c = none := by
  have hfirst := Verifier.verify_first ⟨p, none⟩ now token
  constructor
  · intro hpass
    cases hd : decode token with
    | error e => exact absurd ⟨e, hd⟩ (hpass 2 (by simp))
    | ok d =>
      obtain ⟨h, c⟩ := d
      refine ⟨h, c, rfl, ?_⟩
      cases hr : p.refusal? h c with
      | none => rfl
      | some s =>
        have hcode := refusal_code hr
        rw [Verifier.verify_decoded _ now hd, hr, Option.getD_some] at hfirst
        have hlow : 3 ≤ s.code := hcode.1
        exact absurd (hfirst.fails_of_pos (by omega)) (hpass _ ⟨by omega, hcode.2⟩)
  · rintro ⟨h, c, hd, hr⟩ k ⟨hlow, hhigh⟩
    rw [Verifier.verify_decoded _ now hd, hr, Option.getD_none] at hfirst
    exact hfirst.passes_below one_pos (p.window_code now c) k hlow (by omega)

end Policy

namespace Verifier

theorem status_congr (p : Policy) (r r' : Option Resolver) (now : Int64) (token : String) :
    (verify ⟨p, r⟩ now token).status = (verify ⟨p, r'⟩ now token).status := by
  unfold verify
  split_ifs
  · rfl
  · cases decode token with
    | error e => rfl
    | ok d =>
      dsimp only
      cases p.refusal? d.1 d.2 <;> rfl

theorem calls_of_passes {v : Verifier} {token : String} {h : Header} {c : Claims}
    (hd : decode token = .ok (h, c)) (hr : v.policy.refusal? h c = none) (now : Int64) :
    (v.verify now token).calls = v.lookup h c := by
  have hne : token ≠ "" := by
    rintro rfl
    rw [decode_empty] at hd
    cases hd
  simp only [verify, hne, ↓reduceIte, hd, hr]

theorem calls_of_fails {v : Verifier} {token : String}
    (hf : ¬ ∃ h c, decode token = .ok (h, c) ∧ v.policy.refusal? h c = none) (now : Int64) :
    (v.verify now token).calls = [] := by
  unfold verify
  split_ifs
  · rfl
  · split
    · rfl
    · next h c hd =>
      split
      · rfl
      · next hr => exact absurd ⟨h, c, hd, hr⟩ hf

theorem string?_eq_some {v : Value} {t : String} : v.string? = some t ↔ v = .scalar (.string t) := by
  constructor
  · intro h
    unfold Value.string? at h
    split at h
    · cases h
      rfl
    · cases h
  · rintro rfl
    rfl

theorem lookup_eq_singleton (p : Policy) (resolve : Resolver) (h : Header) (c : Claims)
    (iss : String) (kid : Option String) :
    lookup ⟨p, some resolve⟩ h c = [⟨iss, kid, resolve iss kid⟩] ↔
      c.issuer = some iss ∧ iss ≠ "" ∧ kid = h.keyId := by
  unfold lookup
  cases c.issuer with
  | none => simp
  | some issuer =>
    constructor
    · intro hl
      dsimp only at hl
      split_ifs at hl with hissuer
      cases hl
      exact ⟨rfl, hissuer, rfl⟩
    · rintro ⟨he, hissuer, rfl⟩
      cases he
      exact if_neg hissuer

theorem lookup_cases (p : Policy) (resolve : Resolver) (h : Header) (c : Claims) :
    lookup ⟨p, some resolve⟩ h c = [] ∨
      ∃ iss kid, lookup ⟨p, some resolve⟩ h c = [⟨iss, kid, resolve iss kid⟩] := by
  unfold lookup
  cases c.issuer with
  | none => exact Or.inl rfl
  | some issuer =>
    dsimp only
    split_ifs
    · exact Or.inl rfl
    · exact Or.inr ⟨issuer, h.keyId, rfl⟩

theorem verify_lookups (p : Policy) (now : Int64) (token : String) :
    (∀ r r' : Option Resolver,
      (verify ⟨p, r⟩ now token).status = (verify ⟨p, r'⟩ now token).status) ∧
    (verify ⟨p, none⟩ now token).calls = [] ∧
    ∀ resolve : Resolver,
      let calls := (verify ⟨p, some resolve⟩ now token).calls
      (∀ iss kid, calls = [⟨iss, kid, resolve iss kid⟩] ↔
        (∀ k ∈ Set.Icc 1 6, ¬ p.Fails now token k) ∧
          issuerGiven? token = some (.scalar (.string iss)) ∧ iss ≠ "" ∧
          kid = (keyIdGiven? token).bind Value.string?) ∧
      ((¬ ∃ iss kid, calls = [⟨iss, kid, resolve iss kid⟩]) → calls = []) ∧
      ∀ now', (verify ⟨p, some resolve⟩ now' token).calls = calls := by
  refine ⟨fun r r' => status_congr p r r' now token, ?_, fun resolve => ?_⟩
  · by_cases hpass : ∃ h c, decode token = .ok (h, c) ∧ p.refusal? h c = none
    · obtain ⟨h, c, hd, hr⟩ := hpass
      rw [calls_of_passes hd hr]
      rfl
    · exact calls_of_fails hpass now
  · intro calls
    -- the first six checks do not see the clock, so they stand or fall alike at any time
    rw [p.passes_iff now token]
    by_cases hpass : ∃ h c, decode token = .ok (h, c) ∧ p.refusal? h c = none
    · obtain ⟨h, c, hd, hr⟩ := hpass
      have hcalls (now' : Int64) :
          (verify ⟨p, some resolve⟩ now' token).calls = lookup ⟨p, some resolve⟩ h c :=
        calls_of_passes hd hr now'
      have hissuer (iss : String) :
          c.issuer = some iss ↔ issuerGiven? token = some (.scalar (.string iss)) := by
        simp only [issuer_given hd, Option.bind_eq_some_iff, string?_eq_some, exists_eq_right]
      refine ⟨fun iss kid => ?_, fun hnone => ?_, fun now' => ?_⟩
      · simp only [calls, hcalls, lookup_eq_singleton, hissuer, keyId_given hd]
        exact ⟨fun hl => ⟨⟨h, c, hd, hr⟩, hl⟩, fun hl => hl.2⟩
      · rw [show calls = _ from hcalls now] at hnone ⊢
        exact (lookup_cases p resolve h c).resolve_right hnone
      · exact (hcalls now').trans (hcalls now).symm
    · have hcalls (now' : Int64) : (verify ⟨p, some resolve⟩ now' token).calls = [] :=
        calls_of_fails hpass now'
      refine ⟨fun iss kid => ?_, fun _ => hcalls now, fun now' => ?_⟩
      · rw [show calls = [] from hcalls now]
        exact ⟨fun hl => absurd hl.symm (List.cons_ne_nil _ _), fun hl => absurd hl.1 hpass⟩
      · exact (hcalls now').trans (hcalls now).symm

end Verifier

end BearerCheck
