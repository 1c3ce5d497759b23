import BearerCheck.Proofs.Token.Decoding
import BearerCheck.Proofs.Token.Seconds
import BearerCheck.Verifier.Basic
import Mathlib.Order.Bounds.Basic
import Mathlib.Tactic.IntervalCases

/-!
The eight checks on a token, each stated on its own and numbered by the code of the status that
tells of its failure. A verdict names the first check that fails.
-/

namespace BearerCheck

open Token

def Policy.Rejects (p : Policy) (now : Int64) (h : Header) (c : Claims) : Nat → Prop
  | 3 => p.algorithms ≠ [] ∧ h.algorithm ∉ p.algorithms
  | 4 => p.subjects ≠ [] ∧ c.subject.getD "" ∉ p.subjects
  | 5 => ¬ ∃ t, c.issuedAt = some t ∧ 1.0 ≤ t
  | 6 => ¬ ∃ t, c.expiresAt = some t ∧ 1.0 ≤ t
  | 7 => ∃ n, c.issuedAtSeconds = some n ∧ now.toInt < saturate (n.toInt - p.skew.toInt)
  | 8 => ∃ n, c.expiresAtSeconds = some n ∧ saturate (n.toInt + p.skew.toInt) < now.toInt
  | _ => False

def Policy.Fails (p : Policy) (now : Int64) (token : String) : Nat → Prop
  | 1 => token = ""
  | 2 => ∃ e, decode token = .error e
  | k => ∃ h c, decode token = .ok (h, c) ∧ p.Rejects now h c k

/-- Of the checks from `k` on, `n` is the first that fails; it is 0 if none does. -/
def FirstFrom (fails : Nat → Prop) (k n : Nat) : Prop :=
  (n = 0 ∧ ∀ j, k ≤ j → ¬ fails j) ∨ (k ≤ n ∧ fails n ∧ ∀ j, k ≤ j → j < n → ¬ fails j)

namespace FirstFrom

variable {fails : Nat → Prop} {k n : Nat}

theorem here (h : fails k) : FirstFrom fails k k :=
  Or.inr ⟨le_refl k, h, fun _ hj hk => absurd hk (Nat.not_lt.mpr hj)⟩

theorem later (h : ¬ fails k) (hn : FirstFrom fails (k + 1) n) : FirstFrom fails k n := by
  have skip (j : Nat) (hj : k ≤ j) (hl : k + 1 ≤ j → ¬ fails j) : ¬ fails j := by
    rcases Nat.eq_or_lt_of_le hj with rfl | hlt
    · exact h
    · exact hl hlt
  rcases hn with ⟨h0, hall⟩ | ⟨hle, hf, hall⟩
  · exact Or.inl ⟨h0, fun j hj => skip j hj (hall j)⟩
  · exact Or.inr ⟨by omega, hf, fun j hj hjn => skip j hj fun hj' => hall j hj' hjn⟩

theorem test {t : Prop} [Decidable t] {s r : Status} (hk : s.code = k) (ht : t ↔ fails k)
    (hr : ¬ t → FirstFrom fails (k + 1) r.code) :
    FirstFrom fails k (if t then s else r).code := by
  split_ifs with h
  · rw [hk]
    exact here (ht.mp h)
  · exact later (fun hf => h (ht.mpr hf)) (hr h)

theorem congr {fails' : Nat → Prop} (h : ∀ j, k ≤ j → (fails j ↔ fails' j))
    (hn : FirstFrom fails k n) : FirstFrom fails' k n := by
  rcases hn with ⟨h0, hall⟩ | ⟨hle, hf, hall⟩
  · exact Or.inl ⟨h0, fun j hj hf => hall j hj ((h j hj).mpr hf)⟩
  · exact Or.inr ⟨hle, (h n hle).mp hf, fun j hj hjn hf => hall j hj hjn ((h j hj).mpr hf)⟩

theorem zero_iff (hk : 0 < k) (hn : FirstFrom fails k n) : n = 0 ↔ ∀ j, k ≤ j → ¬ fails j := by
  rcases hn with ⟨h0, hall⟩ | ⟨hle, hf, hall⟩
  · exact ⟨fun _ => hall, fun _ => h0⟩
  · exact ⟨by omega, fun h => absurd hf (h n hle)⟩

theorem eq_iff (hk : 0 < k) (hn : FirstFrom fails k n) {m : Nat} (hm : k ≤ m) :
    n = m ↔ fails m ∧ ∀ j, k ≤ j → j < m → ¬ fails j := by
  rcases hn with ⟨h0, hall⟩ | ⟨hle, hf, hall⟩
  · exact ⟨by omega, fun h => absurd h.1 (hall m hm)⟩
  · constructor
    · rintro rfl
      exact ⟨hf, hall⟩
    · rintro ⟨hm', hall'⟩
      rcases Nat.lt_trichotomy n m with h | h | h
      · exact absurd hf (hall' n hle h)
      · exact h
      · exact absurd hm' (hall m hm h)

end FirstFrom

namespace Policy

theorem allows_eq_false (allowed : List String) (s : String) :
    allows allowed s = false ↔ allowed ≠ [] ∧ s ∉ allowed := by
  simp [allows]

theorem Fails.mem_Icc {p : Policy} {now : Int64} {token : String} {k : Nat}
    (hf : p.Fails now token k) : k ∈ Set.Icc 1 8 := by
  by_contra hk
  simp only [Set.mem_Icc, not_and_or, not_le] at hk
  unfold Fails Rejects at hf
  split at hf
  · omega
  · omega
  · obtain ⟨h, c, _, hr⟩ := hf
    split at hr <;> omega

theorem isTime_iff (x : Option Float) : isTime x = true ↔ ∃ t, x = some t ∧ 1.0 ≤ t := by
  cases x <;> simp [isTime]

theorem window_first (p : Policy) (now : Int64) (h : Header) (c : Claims)
    (hi : ∃ t, c.issuedAt = some t ∧ 1.0 ≤ t) (he : ∃ t, c.expiresAt = some t ∧ 1.0 ≤ t) :
    FirstFrom (p.Rejects now h c) 7 (p.window now c).code := by
  obtain ⟨i, hi, _⟩ := hi
  obtain ⟨e, he, _⟩ := he
  have hearly : now < p.earliest c ↔ p.Rejects now h c 7 := by
    simp [Rejects, earliest, Claims.issuedAtSeconds, hi, Int64.lt_iff_toInt_lt, ofIntClamp_toInt]
  have hlate : p.latest c < now ↔ p.Rejects now h c 8 := by
    simp [Rejects, latest, Claims.expiresAtSeconds, he, Int64.lt_iff_toInt_lt, ofIntClamp_toInt]
  unfold window
  refine FirstFrom.test rfl hearly fun _ => FirstFrom.test rfl hlate fun _ => ?_
  refine Or.inl ⟨rfl, fun j hj => ?_⟩
  simp only [Rejects]
  split <;> simp_all

theorem refusal_first (p : Policy) (now : Int64) (h : Header) (c : Claims) :
    FirstFrom (p.Rejects now h c) 3 ((p.refusal? h c).getD (p.window now c)).code := by
  have halg : (!p.allowsAlgorithm h) = true ↔ p.Rejects now h c 3 := by
    rw [Bool.not_eq_true']
    exact allows_eq_false _ _
  have hsub : (!p.allowsSubject c) = true ↔ p.Rejects now h c 4 := by
    rw [Bool.not_eq_true']
    exact allows_eq_false _ _
  have hiat : (!isTime c.issuedAt) = true ↔ p.Rejects now h c 5 := by
    rw [Bool.not_eq_true', ← Bool.not_eq_true, isTime_iff]
    rfl
  have hexp : (!isTime c.expiresAt) = true ↔ p.Rejects now h c 6 := by
    rw [Bool.not_eq_true', ← Bool.not_eq_true, isTime_iff]
    rfl
  have hget : (p.refusal? h c).getD (p.window now c) =
      if !p.allowsAlgorithm h then .wrongAlgorithm
      else if !p.allowsSubject c then .unauthorized
      else if !isTime c.issuedAt then .noIssueTime
      else if !isTime c.expiresAt then .noExpirationTime
      else p.window now c := by
    unfold refusal?
    split_ifs <;> rfl
  rw [hget]
  -- the window is only asked about claims that have both times
  refine FirstFrom.test rfl halg fun _ => FirstFrom.test rfl hsub fun _ =>
    FirstFrom.test rfl hiat fun hi => FirstFrom.test rfl hexp fun he => ?_
  apply window_first
  · exact (isTime_iff _).mp (by simpa using hi)
  · exact (isTime_iff _).mp (by simpa using he)

end Policy

namespace Verifier

theorem verify_decoded (v : Verifier) (now : Int64) {token : String} {h : Header} {c : Claims}
    (hd : decode token = .ok (h, c)) :
    (v.verify now token).status = (v.policy.refusal? h c).getD (v.policy.window now c) := by
  have hne : token ≠ "" := by
    rintro rfl
    rw [decode_empty] at hd
    cases hd
  simp only [verify, hne, ↓reduceIte, hd]
  cases v.policy.refusal? h c <;> rfl

theorem verify_first (v : Verifier) (now : Int64) (token : String) :
    FirstFrom (v.policy.Fails now token) 1 (v.verify now token).status.code := by
  by_cases ht : token = ""
  · subst ht
    exact FirstFrom.here (k := 1) rfl
  · apply FirstFrom.later ht
    cases hd : decode token with
    | error e =>
      have hs : (v.verify now token).status = .parseFailed := by simp [verify, ht, hd]
      rw [hs]
      exact FirstFrom.here (k := 2) ⟨e, hd⟩
    | ok d =>
      obtain ⟨h, c⟩ := d
      refine FirstFrom.later (fun ⟨e, he⟩ => by simp [hd] at he) ?_
      rw [verify_decoded v now hd]
      refine FirstFrom.congr (fun j hj => ?_) (v.policy.refusal_first now h c)
      obtain ⟨i, rfl⟩ := Nat.exists_eq_add_of_le' hj
      simp [Policy.Fails, hd]

theorem verify_eq_ok (v : Verifier) (now : Int64) (token : String) :
    (v.verify now token).status = .ok ↔ ∀ k, 1 ≤ k → ¬ v.policy.Fails now token k := by
  rw [← (v.verify_first now token).zero_iff one_pos]
  cases (v.verify now token).status <;> simp [Status.code]

theorem accepted_decoded {v : Verifier} {now : Int64} {token : String}
    (ha : (v.verify now token).status = .ok) :
    ∃ h c, decode token = .ok (h, c) ∧ ∀ k, ¬ v.policy.Rejects now h c k := by
  have hpass := (v.verify_eq_ok now token).mp ha
  cases hd : decode token with
  | error e => exact absurd ⟨e, hd⟩ (hpass 2 (by omega))
  | ok d =>
    obtain ⟨h, c⟩ := d
    refine ⟨h, c, rfl, fun k hr => ?_⟩
    rcases Nat.lt_or_ge k 3 with hk | hk
    · interval_cases k <;> exact hr
    · obtain ⟨i, rfl⟩ := Nat.exists_eq_add_of_le' hk
      exact hpass (i + 3) (by omega) ⟨h, c, hd, hr⟩

theorem verify_code_least (v : Verifier) (now : Int64) (token : String) :
    (∀ k ∈ Set.Icc 1 8, (v.verify now token).status.code = k ↔
        IsLeast {j ∈ Set.Icc 1 8 | v.policy.Fails now token j} k) ∧
      ((v.verify now token).status.code = 0 ↔ ∀ k ∈ Set.Icc 1 8, ¬ v.policy.Fails now token k) ∧
      ((v.verify now token).status = .ok ↔ ∀ k ∈ Set.Icc 1 8, ¬ v.policy.Fails now token k) := by
  have hfirst := v.verify_first now token
  have hrange : (∀ k, 1 ≤ k → ¬ v.policy.Fails now token k) ↔
      ∀ k ∈ Set.Icc 1 8, ¬ v.policy.Fails now token k :=
    ⟨fun h k hk => h k hk.1, fun h k _ hf => h k hf.mem_Icc hf⟩
  refine ⟨fun k hk => ?_, (hfirst.zero_iff one_pos).trans hrange,
    (v.verify_eq_ok now token).trans hrange⟩
  rw [hfirst.eq_iff one_pos hk.1]
  constructor
  · rintro ⟨hf, hall⟩
    refine ⟨⟨hk, hf⟩, fun j hj => ?_⟩
    by_contra hlt
    exact hall j hj.1.1 (Nat.lt_of_not_le hlt) hj.2
  · rintro ⟨⟨_, hf⟩, hleast⟩
    refine ⟨hf, fun j _ hjk hj => ?_⟩
    exact absurd (hleast ⟨hj.mem_Icc, hj⟩) (Nat.not_le.mpr hjk)

example : (verify ⟨⟨["bob"], ["RS256"], 60⟩, none⟩ 0 "e30.e30").status = .wrongAlgorithm := by
  decide +kernel

end Verifier

end BearerCheck
