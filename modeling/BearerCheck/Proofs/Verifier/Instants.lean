import BearerCheck.Proofs.Verifier.Lookups

namespace BearerCheck

open Token

/-- The statuses that the clock decides on, in the order in which they follow each other. -/
def Status.phase? : Status → Option Nat
  | .tooEarly => some 0
  | .ok => some 1
  | .expired => some 2
  | _ => none

def Status.Precedes (s s' : Status) : Prop :=
  ∃ k k', s.phase? = some k ∧ s'.phase? = some k' ∧ k ≤ k'

namespace Status.Precedes

theorem eq_expired {s : Status} (h : Precedes .expired s) : s = .expired := by
  cases s <;> simp [Precedes, phase?] at h ⊢

theorem eq_tooEarly {s : Status} (h : Precedes s .tooEarly) : s = .tooEarly := by
  cases s <;> simp [Precedes, phase?] at h ⊢

theorem eq_ok {s : Status} (h : Precedes .ok s) (h' : Precedes s .ok) : s = .ok := by
  cases s <;> simp [Precedes, phase?] at h h' ⊢

end Status.Precedes

namespace Policy

theorem window_phase (p : Policy) (now : Int64) (c : Claims) : (p.window now c).phase? =
    some (if now < p.earliest c then 0 else if p.latest c < now then 2 else 1) := by
  unfold window
  split_ifs <;> rfl

theorem window_precedes (p : Policy) (c : Claims) {now now' : Int64} (h : now ≤ now') :
    (p.window now c).Precedes (p.window now' c) := by
  refine ⟨_, _, p.window_phase now c, p.window_phase now' c, ?_⟩
  rw [Int64.le_iff_toInt_le] at h
  simp only [Int64.lt_iff_toInt_lt]
  split_ifs <;> omega

end Policy

namespace Verifier

theorem status_fixed_or_window (v : Verifier) (token : String) :
    (∃ s, s.code ∈ Set.Icc 1 6 ∧ ∀ now, (v.verify now token).status = s) ∨
      ∃ c, ∀ now, (v.verify now token).status = v.policy.window now c := by
  cases hd : decode token with
  | error e =>
    by_cases ht : token = ""
    · exact Or.inl ⟨.emptyToken, by simp [Status.code], fun now => by simp [verify, ht]⟩
    · exact Or.inl ⟨.parseFailed, by simp [Status.code], fun now => by simp [verify, ht, hd]⟩
  | ok d =>
    obtain ⟨h, c⟩ := d
    cases hr : v.policy.refusal? h c with
    | none => exact Or.inr ⟨c, fun now => by rw [v.verify_decoded now hd, hr, Option.getD_none]⟩
    | some s =>
      have hcode := Policy.refusal_code hr
      have hlow : 3 ≤ s.code := hcode.1
      refine Or.inl ⟨s, ⟨by omega, hcode.2⟩, fun now => ?_⟩
      rw [v.verify_decoded now hd, hr, Option.getD_some]

theorem status_over_time (v : Verifier) (token : String) :
    (∀ now now', now ≤ now' →
      ((v.verify now token).status.code ∈ Set.Icc 1 6 ∧
          ∀ t, (v.verify t token).status = (v.verify now token).status) ∨
        (v.verify now token).status.Precedes (v.verify now' token).status) ∧
      (∀ first now last, first ≤ now → now ≤ last → (v.verify first token).status = .ok →
        (v.verify last token).status = .ok → (v.verify now token).status = .ok) ∧
      (∀ now now', now ≤ now' → (v.verify now token).status = .expired →
        (v.verify now' token).status = .expired) ∧
      ∀ now now', now ≤ now' → (v.verify now token).status ≠ .tooEarly →
        (v.verify now' token).status ≠ .tooEarly := by
  rcases v.status_fixed_or_window token with ⟨s, hs, hall⟩ | ⟨c, hall⟩
  · simp only [hall]
    exact ⟨fun _ _ _ => Or.inl ⟨hs, fun _ => trivial⟩, fun _ _ _ _ _ h _ => h, fun _ _ _ h => h,
      fun _ _ _ h => h⟩
  · have hprecedes {now now' : Int64} (h : now ≤ now') := v.policy.window_precedes c h
    simp only [hall]
    refine ⟨fun now now' h => Or.inr (hprecedes h), fun first now last h h' hfirst hlast => ?_,
      fun now now' h hnow => ?_, fun now now' h hnow hnow' => ?_⟩
    · exact (hfirst ▸ hprecedes h).eq_ok (hlast ▸ hprecedes h')
    · exact (hnow ▸ hprecedes h).eq_expired
    · exact hnow (hnow' ▸ hprecedes h).eq_tooEarly

end Verifier

end BearerCheck
