import BearerCheck.KeySet.Basic
import BearerCheck.Proofs.Outcome

namespace BearerCheck

def Key.certificate (k : Key) : Except LookupError Certificate :=
  match k.chain with
  | [] => .error (.noCertificate k.keyId)
  | c :: _ => .ok ⟨c, k.keyId⟩

namespace KeySet

def FirstOf (ks : List Key) (i : String) (k : Key) : Prop :=
  ∃ before after, ks = before ++ k :: after ∧ k.keyId = i ∧ ∀ b ∈ before, b.keyId ≠ i

variable {ks more : List Key} {i : String} {k : Key}

theorem find?_eq_none : find? ⟨ks⟩ i = none ↔ ∀ k ∈ ks, k.keyId ≠ i := by
  simp [find?]

theorem find?_eq_firstOf : find? ⟨ks⟩ i = some k ↔ FirstOf ks i k := by
  unfold find? FirstOf
  rw [List.find?_eq_some_iff_append]
  constructor
  · rintro ⟨hk, before, after, rfl, hbefore⟩
    exact ⟨before, after, rfl, by simpa using hk, by simpa using hbefore⟩
  · rintro ⟨before, after, rfl, hk, hbefore⟩
    exact ⟨by simpa using hk, before, after, rfl, by simpa using hbefore⟩

theorem certificate_of_select {hint : Option String} (h : select ⟨ks⟩ hint = .ok k) :
    certificate ⟨ks⟩ hint = k.certificate := by
  unfold certificate Key.certificate
  rw [h]
  dsimp only [bind, Except.bind]
  cases k.chain <;> rfl

theorem certificate_first (k : Key) (ks : List Key) :
    certificate ⟨k :: ks⟩ none = k.certificate := certificate_of_select rfl

theorem select_some (hks : ks ≠ []) (i : String) :
    select ⟨ks⟩ (some i) = ((find? ⟨ks⟩ i).map Except.ok).getD (.error (.keyNotFound i)) := by
  cases ks with
  | nil => exact absurd rfl hks
  | cons k ks =>
    unfold select
    dsimp only
    cases find? ⟨k :: ks⟩ i <;> rfl

theorem certificate_of_none (hks : ks ≠ []) (h : ∀ k ∈ ks, k.keyId ≠ i) :
    certificate ⟨ks⟩ (some i) = .error (.keyNotFound i) := by
  unfold certificate
  rw [select_some hks, find?_eq_none.mpr h]
  rfl

theorem certificate_of_firstOf (h : FirstOf ks i k) : certificate ⟨ks⟩ (some i) = k.certificate := by
  have hks : ks ≠ [] := by
    obtain ⟨before, after, rfl, _⟩ := h
    simp
  apply certificate_of_select
  rw [select_some hks, find?_eq_firstOf.mpr h]
  rfl

theorem exists_firstOf (h : ∃ k ∈ ks, k.keyId = i) : ∃ k, FirstOf ks i k := by
  cases hfind : find? ⟨ks⟩ i with
  | none =>
    obtain ⟨k, hk, hi⟩ := h
    exact absurd hi (find?_eq_none.mp hfind k hk)
  | some k => exact ⟨k, find?_eq_firstOf.mp hfind⟩

theorem mem_of_select {hint : Option String} (h : select ⟨ks⟩ hint = .ok k) :
    k ∈ ks ∧ ∀ i, hint = some i → k.keyId = i := by
  cases ks with
  | nil => cases hint <;> cases h
  | cons k₀ ks =>
    cases hint with
    | none =>
      cases h
      exact ⟨List.mem_cons_self, nofun⟩
    | some i =>
      rw [select_some (List.cons_ne_nil k₀ ks)] at h
      cases hfind : find? ⟨k₀ :: ks⟩ i with
      | none =>
        rw [hfind] at h
        cases h
      | some found =>
        rw [hfind] at h
        cases h
        obtain ⟨before, after, he, hi, _⟩ := find?_eq_firstOf.mp hfind
        refine ⟨by simp [he], fun j hj => ?_⟩
        cases hj
        exact hi

theorem certificate_eq_ok {hint : Option String} {c : Certificate}
    (h : certificate ⟨ks⟩ hint = .ok c) :
    ∃ k ∈ ks, k.keyId = c.keyId ∧ k.chain.head? = some c.text ∧ ∀ i, hint = some i → c.keyId = i := by
  obtain ⟨k, hselect, hchain⟩ := bind_eq_ok.mp h
  obtain ⟨hmem, hhint⟩ := mem_of_select hselect
  cases hk : k.chain with
  | nil =>
    rw [hk] at hchain
    cases hchain
  | cons text rest =>
    rw [hk] at hchain
    cases hchain
    exact ⟨k, hmem, rfl, by rw [hk]; rfl, hhint⟩

theorem FirstOf.append (h : FirstOf ks i k) (more : List Key) : FirstOf (ks ++ more) i k := by
  obtain ⟨before, after, rfl, hk, hbefore⟩ := h
  exact ⟨before, after ++ more, by simp, hk, hbefore⟩

theorem FirstOf.prepend (h : FirstOf ks i k) (hmore : ∀ k ∈ more, k.keyId ≠ i) :
    FirstOf (more ++ ks) i k := by
  obtain ⟨before, after, rfl, hk, hbefore⟩ := h
  refine ⟨more ++ before, after, by simp, hk, fun b hb => ?_⟩
  rcases List.mem_append.mp hb with hb | hb
  · exact hmore b hb
  · exact hbefore b hb

theorem key_certificate_selected (k : Key) :
    k.certificate ≠ .error .noKeys ∧ ∀ i, k.certificate ≠ .error (.keyNotFound i) := by
  unfold Key.certificate
  cases k.chain <;> simp

theorem certificate_cases (hks : ks ≠ []) (i : String) :
    ((∀ k ∈ ks, k.keyId ≠ i) ∧ certificate ⟨ks⟩ (some i) = .error (.keyNotFound i)) ∨
      ∃ k, FirstOf ks i k ∧ certificate ⟨ks⟩ (some i) = k.certificate := by
  by_cases h : ∃ k ∈ ks, k.keyId = i
  · obtain ⟨k, hk⟩ := exists_firstOf h
    exact Or.inr ⟨k, hk, certificate_of_firstOf hk⟩
  · have hnone : ∀ k ∈ ks, k.keyId ≠ i := fun k hk hi => h ⟨k, hk, hi⟩
    exact Or.inl ⟨hnone, certificate_of_none hks hnone⟩

theorem certificate_noKeys (ks : List Key) (hint : Option String) :
    certificate ⟨ks⟩ hint = .error .noKeys ↔ ks = [] := by
  constructor
  · intro h
    cases ks with
    | nil => rfl
    | cons k ks =>
      cases hint with
      | none =>
        rw [certificate_first] at h
        exact absurd h (key_certificate_selected k).1
      | some i =>
        rcases certificate_cases (List.cons_ne_nil k ks) i with ⟨_, he⟩ | ⟨k', _, he⟩
        · cases he.symm.trans h
        · exact absurd (he.symm.trans h) (key_certificate_selected k').1
  · rintro rfl
    cases hint <;> rfl

theorem certificate_append (hks : ks ≠ []) (more : List Key) (hint : Option String)
    (h : ∀ i, certificate ⟨ks⟩ hint ≠ .error (.keyNotFound i)) :
    certificate ⟨ks ++ more⟩ hint = certificate ⟨ks⟩ hint := by
  cases hint with
  | none =>
    obtain ⟨k, ks, rfl⟩ := List.exists_cons_of_ne_nil hks
    rw [List.cons_append, certificate_first, certificate_first]
  | some i =>
    rcases certificate_cases hks i with ⟨_, he⟩ | ⟨k, hk, he⟩
    · exact absurd he (h i)
    · rw [he, certificate_of_firstOf (hk.append more)]

theorem certificate_prepend (hks : ks ≠ []) (hmore : ∀ k ∈ more, k.keyId ≠ i) :
    certificate ⟨more ++ ks⟩ (some i) = certificate ⟨ks⟩ (some i) := by
  rcases certificate_cases hks i with ⟨hnone, he⟩ | ⟨k, hk, he⟩
  · have hall : ∀ k ∈ more ++ ks, k.keyId ≠ i := by
      intro k hk
      rcases List.mem_append.mp hk with hk | hk
      · exact hmore k hk
      · exact hnone k hk
    rw [he, certificate_of_none (List.append_ne_nil_of_right_ne_nil _ hks) hall]
  · rw [he, certificate_of_firstOf (hk.prepend hmore)]

theorem certificate_decided (ks : List Key) :
    (∀ hint, certificate ⟨ks⟩ hint = .error .noKeys ↔ ks = []) ∧
    (∀ k rest, ks = k :: rest → certificate ⟨ks⟩ none = k.certificate) ∧
    (ks ≠ [] → ∀ i,
      (certificate ⟨ks⟩ (some i) = .error (.keyNotFound i) ↔ ∀ k ∈ ks, k.keyId ≠ i) ∧
      ((∃ k ∈ ks, k.keyId = i) →
        ∃ k, FirstOf ks i k ∧ certificate ⟨ks⟩ (some i) = k.certificate) ∧
      ∀ more, (∀ k ∈ more, k.keyId ≠ i) →
        certificate ⟨more ++ ks⟩ (some i) = certificate ⟨ks⟩ (some i)) ∧
    (ks ≠ [] → ∀ more hint, (∀ i, certificate ⟨ks⟩ hint ≠ .error (.keyNotFound i)) →
      certificate ⟨ks ++ more⟩ hint = certificate ⟨ks⟩ hint) := by
  refine ⟨certificate_noKeys ks, ?_, fun hks i => ⟨⟨fun h => ?_, ?_⟩, fun h => ?_, ?_⟩, ?_⟩
  · rintro k rest rfl
    exact certificate_first k rest
  · rcases certificate_cases hks i with ⟨hnone, _⟩ | ⟨k, _, he⟩
    · exact hnone
    · exact absurd (he.symm.trans h) ((key_certificate_selected k).2 i)
  · exact certificate_of_none hks
  · obtain ⟨k, hk⟩ := exists_firstOf h
    exact ⟨k, hk, certificate_of_firstOf hk⟩
  · exact fun more hmore => certificate_prepend hks hmore
  · exact certificate_append

example :
    let bare : Key := { Key.empty with keyId := "a" }
    let other : Key := { Key.empty with keyId := "b", chain := ["MII"] }
    certificate ⟨[bare, { bare with chain := ["MII"] }, other]⟩ (some "a") =
      .error (.noCertificate "a") := by rfl

end KeySet

end BearerCheck
