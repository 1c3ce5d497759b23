import BearerCheck.Proofs.Settings.AllowLists
import BearerCheck.Proofs.Verifier.Lookups

/-!
Whom values from the command line let in or keep out. A list that names somebody lets more in when
it grows, and an empty one, which allows everything, fewer. The rest is up to the skew.
-/

namespace BearerCheck

open Token

namespace Policy

/-- What the first policy accepts, the second does as well: it allows all that the first allows and
has the same patience or more. -/
structure Within (p q : Policy) : Prop where
  subjects : ∀ x, allows p.subjects x = true → allows q.subjects x = true
  algorithms : ∀ x, allows p.algorithms x = true → allows q.algorithms x = true
  skew : p.skew.toInt ≤ q.skew.toInt

theorem saturate_mono {m n : Int} (h : m ≤ n) : saturate m ≤ saturate n := by
  unfold saturate
  omega

theorem allows_iff (allowed : List String) (x : String) :
    allows allowed x = true ↔ ¬ (allowed ≠ [] ∧ x ∉ allowed) := by
  rw [← allows_eq_false, Bool.not_eq_false]

theorem Within.rejects {p q : Policy} (hpq : p.Within q) {now : Int64} {h : Header} {c : Claims}
    {k : Nat} (hk : q.Rejects now h c k) : p.Rejects now h c k := by
  unfold Rejects at hk ⊢
  split at hk
  · by_contra hp
    exact (allows_iff _ _).mp (hpq.algorithms _ ((allows_iff _ _).mpr hp)) hk
  · by_contra hp
    exact (allows_iff _ _).mp (hpq.subjects _ ((allows_iff _ _).mpr hp)) hk
  · exact hk
  · exact hk
  · obtain ⟨n, hn, hlt⟩ := hk
    have := saturate_mono (Int.sub_le_sub_left hpq.skew n.toInt)
    exact ⟨n, hn, by omega⟩
  · obtain ⟨n, hn, hlt⟩ := hk
    have := saturate_mono (Int.add_le_add_left hpq.skew n.toInt)
    exact ⟨n, hn, by omega⟩
  · exact hk

theorem Within.accepts {p q : Policy} (hpq : p.Within q) (r r' : Option Resolver) {now : Int64}
    {token : String} (ha : (Verifier.verify ⟨p, r⟩ now token).status = .ok) :
    (Verifier.verify ⟨q, r'⟩ now token).status = .ok := by
  rw [Verifier.verify_eq_ok] at ha ⊢
  intro k hk hf
  apply ha k hk
  unfold Fails at hf ⊢
  split at hf
  · exact hf
  · exact hf
  · obtain ⟨h, c, hd, hr⟩ := hf
    exact ⟨h, c, hd, hpq.rejects hr⟩

end Policy

namespace Settings

theorem allows_names (entries : List String) (x : String) :
    Policy.allows (Dictionary.names entries) x = true ↔ entries = [] ∨ x ∈ entries := by
  simp [Policy.allows, names_eq_nil, Dictionary.mem_names]

theorem policy_skew (s : Settings) :
    s.policy.skew.toInt = min s.skew.toNat largestSkew := by
  have hlt : min s.skew.toNat largestSkew < 2 ^ 63 := by
    simp only [largestSkew]
    omega
  rw [policy, Int64.toInt_ofNat_of_lt hlt]

theorem policy_within {s t : Settings}
    (hsubjects : ∀ x, s.subjects = [] ∨ x ∈ s.subjects → t.subjects = [] ∨ x ∈ t.subjects)
    (halgorithms : ∀ x, s.algorithms = [] ∨ x ∈ s.algorithms → t.algorithms = [] ∨ x ∈ t.algorithms)
    (hskew : s.skew ≤ t.skew) : s.policy.Within t.policy where
  subjects x := by simpa only [policy, allows_names] using hsubjects x
  algorithms x := by simpa only [policy, allows_names] using halgorithms x
  skew := by
    have := UInt64.le_iff_toNat_le.mp hskew
    rw [policy_skew, policy_skew]
    omega

theorem override_skew {s : Settings} {o : Overrides} {P : UInt64 → Prop} (h : P s.skew)
    (hskew : ∀ k, o.skew = some k → P k) : P (s.override o).skew := by
  change P (o.skew.getD s.skew)
  cases hk : o.skew with
  | none => exact h
  | some k => exact hskew k hk

section Lists

variable {entries more : List String}

theorem allowed_of_named (h : more ≠ [] → entries ≠ []) (x : String)
    (hx : entries = [] ∨ x ∈ entries) : entries ++ more = [] ∨ x ∈ entries ++ more := by
  rcases hx with rfl | hx
  · have hmore : more = [] := not_not.mp fun hne => h hne rfl
    exact Or.inl hmore
  · exact Or.inr (List.mem_append_left more hx)

theorem allowed_of_empty (h : more ≠ [] → entries = []) (x : String)
    (hx : entries ++ more = [] ∨ x ∈ entries ++ more) : entries = [] ∨ x ∈ entries := by
  by_cases hmore : more = []
  · simpa only [hmore, List.append_nil] using hx
  · exact Or.inl (h hmore)

end Lists

theorem override_access (s : Settings) (o : Overrides) (r r' : Option Resolver) (now : Int64)
    (token : String) :
    ((o.subjects ≠ [] → s.subjects ≠ []) → (o.algorithms ≠ [] → s.algorithms ≠ []) →
      (∀ k, o.skew = some k → s.skew ≤ k) →
        (Verifier.verify ⟨s.policy, r⟩ now token).status = .ok →
          (Verifier.verify ⟨(s.override o).policy, r'⟩ now token).status = .ok) ∧
    ((o.subjects ≠ [] → s.subjects = []) → (o.algorithms ≠ [] → s.algorithms = []) →
      (∀ k, o.skew = some k → k ≤ s.skew) →
        (Verifier.verify ⟨(s.override o).policy, r'⟩ now token).status = .ok →
          (Verifier.verify ⟨s.policy, r⟩ now token).status = .ok) ∧
    ∀ aliases timeout,
      (Verifier.verify ⟨(s.override { o with aliases, timeout }).policy, r'⟩ now token).status =
          (Verifier.verify ⟨(s.override o).policy, r⟩ now token).status ∧
        (Verifier.verify ⟨(s.override { aliases, timeout }).policy, r'⟩ now token).status =
          (Verifier.verify ⟨s.policy, r⟩ now token).status := by
  refine ⟨fun hsubjects halgorithms hskew => ?_, fun hsubjects halgorithms hskew => ?_,
    fun aliases timeout => ⟨?_, ?_⟩⟩
  · have hle : s.skew ≤ (s.override o).skew := override_skew (UInt64.le_refl _) hskew
    apply Policy.Within.accepts
    exact policy_within (allowed_of_named hsubjects) (allowed_of_named halgorithms) hle
  · have hle : (s.override o).skew ≤ s.skew :=
      override_skew (P := (· ≤ s.skew)) (UInt64.le_refl _) hskew
    apply Policy.Within.accepts
    exact policy_within (allowed_of_empty hsubjects) (allowed_of_empty halgorithms) hle
  · exact Verifier.status_congr _ _ _ _ _
  · have hpolicy : (s.override { aliases, timeout }).policy = s.policy := by
      simp [override, policy]
    rw [hpolicy]
    exact Verifier.status_congr _ _ _ _ _

end Settings

end BearerCheck
