import BearerCheck.Proofs.Settings.Overrides

namespace BearerCheck

open Token

namespace Policy

variable {p : Policy} {now : Int64} {h : Header} {c : Claims}

theorem seconds_of_passes (hr : p.refusal? h c = none) : ∃ iat exp,
    c.issuedAtSeconds = some iat ∧ c.expiresAtSeconds = some exp ∧ 0 ≤ iat.toInt ∧ 0 ≤ exp.toInt := by
  unfold refusal? at hr
  split_ifs at hr with _ _ hiat hexp
  rw [Bool.not_eq_true', Bool.not_eq_false] at hiat hexp
  obtain ⟨i, hi, hi'⟩ := (isTime_iff _).mp hiat
  obtain ⟨e, he, he'⟩ := (isTime_iff _).mp hexp
  exact ⟨_, _, congrArg (Option.map _) hi, congrArg (Option.map _) he,
    Claims.wholeSeconds_nonneg hi', Claims.wholeSeconds_nonneg he'⟩

theorem earliest_exact {iat : Int64} (hiat : c.issuedAtSeconds = some iat) (hpos : 0 ≤ iat.toInt)
    (hskew : 0 ≤ p.skew.toInt) : (p.earliest c).toInt = iat.toInt - p.skew.toInt := by
  have hiat' := iat.toInt_lt
  have hskew' := p.skew.toInt_lt
  rw [earliest, hiat, Option.getD_some, ofIntClamp_toInt, saturate]
  omega

theorem latest_exact {exp : Int64} (hexp : c.expiresAtSeconds = some exp) (hpos : 0 ≤ exp.toInt)
    (hskew : 0 ≤ p.skew.toInt) :
    (p.latest c).toInt = min (exp.toInt + p.skew.toInt) (2 ^ 63 - 1) := by
  rw [latest, hexp, Option.getD_some, ofIntClamp_toInt, saturate]
  omega

end Policy

namespace Settings

theorem policy_skew_exact {s : Settings} (hs : s.flaw? = none) :
    s.policy.skew.toInt = s.skew.toNat := by
  have hle : s.skew.toNat ≤ largestSkew := Nat.le_pred_of_lt (flaw?_eq_none.mp hs).skew
  rw [policy_skew, Nat.min_eq_left hle]

theorem window_exact (s : Settings) (hs : s.flaw? = none) (resolver : Option Resolver)
    (now : Int64) (token : String) (hpass : ∀ k ∈ Set.Icc 1 6, ¬ s.policy.Fails now token k) :
    s.policy.skew.toInt = s.skew.toNat ∧
    ∃ h c iat exp, decode token = .ok (h, c) ∧ c.issuedAtSeconds = some iat ∧
      c.expiresAtSeconds = some exp ∧
      (s.policy.earliest c).toInt = iat.toInt - s.skew.toNat ∧
      (s.policy.latest c).toInt = min (exp.toInt + s.skew.toNat) (2 ^ 63 - 1) ∧
      (Verifier.verify ⟨s.policy, resolver⟩ now token).status =
        if now.toInt < iat.toInt - s.skew.toNat then .tooEarly
        else if exp.toInt + s.skew.toNat < now.toInt then .expired
        else .ok := by
  have hskew := policy_skew_exact hs
  have hskew' : 0 ≤ s.policy.skew.toInt := hskew ▸ Int.natCast_nonneg _
  obtain ⟨h, c, hd, hr⟩ := (s.policy.passes_iff now token).mp hpass
  obtain ⟨iat, exp, hiat, hexp, hiat', hexp'⟩ := Policy.seconds_of_passes hr
  have hearliest := Policy.earliest_exact hiat hiat' hskew'
  have hlatest := Policy.latest_exact hexp hexp' hskew'
  rw [hskew] at hearliest hlatest
  refine ⟨hskew, h, c, iat, exp, hd, hiat, hexp, hearliest, hlatest, ?_⟩
  have hnow := now.toInt_lt
  -- a bound that was cut off is the greatest clock, and no clock is behind that
  have hlate : (s.policy.latest c).toInt < now.toInt ↔ exp.toInt + s.skew.toNat < now.toInt := by
    omega
  rw [Verifier.verify_decoded _ now hd, hr, Option.getD_none, Policy.window]
  simp only [Int64.lt_iff_toInt_lt, hearliest, hlate]

theorem window_exact_last_second :
    let s : Settings := { skew := 0x7FFFFFFFFFFFFFFF }
    let now : Int64 := 0x7FFFFFFFFFFFFFFF
    let token := "e30.eyJpYXQiOjEuNSwiZXhwIjoxZTMwMH0"
    s.flaw? = none ∧ (∀ k ∈ Set.Icc 1 6, ¬ s.policy.Fails now token k) ∧
      s.policy.skew.toInt = s.skew.toNat ∧
      ∃ h c iat exp, decode token = .ok (h, c) ∧ c.issuedAtSeconds = some iat ∧
        c.expiresAtSeconds = some exp ∧
        (s.policy.earliest c).toInt = iat.toInt - s.skew.toNat ∧
        (s.policy.latest c).toInt = min (exp.toInt + s.skew.toNat) (2 ^ 63 - 1) ∧
        (Verifier.verify ⟨s.policy, none⟩ now token).status =
          if now.toInt < iat.toInt - s.skew.toNat then .tooEarly
          else if exp.toInt + s.skew.toNat < now.toInt then .expired
          else .ok := by
  intro s now token
  have hs : s.flaw? = none := by decide +kernel
  have hok : (Verifier.verify ⟨s.policy, none⟩ now token).status = .ok := by decide +kernel
  have hpass : ∀ k ∈ Set.Icc 1 6, ¬ s.policy.Fails now token k :=
    fun k hk => (Verifier.verify_eq_ok _ now token).mp hok k hk.1
  exact ⟨hs, hpass, window_exact s hs none now token hpass⟩

end Settings

end BearerCheck
