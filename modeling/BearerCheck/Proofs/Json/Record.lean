import BearerCheck.Json.Record
import BearerCheck.Proofs.Outcome

namespace BearerCheck.Json

variable {σ β : Type}

theorem document_eq_ok {α : Type} {read : Reader α} {s : List UInt8} {x : α} :
    document read s = .ok x ↔ ∃ r, read s = .ok (x, r) ∧ skipSpace r = [] := by
  unfold document
  rw [bind_eq_ok]
  constructor
  · rintro ⟨⟨y, r⟩, hr, hx⟩
    by_cases hs : skipSpace r = []
    · simp only [hs, ↓reduceIte, Except.ok.injEq] at hx
      exact ⟨r, hx ▸ hr, hs⟩
    · simp [hs] at hx
  · rintro ⟨r, hr, hs⟩
    exact ⟨(x, r), hr, by simp [hs]⟩

theorem value_of_start {s r : List UInt8} {v : Scalar} (h : start s = .ok (.scalar v, r))
    (depth : Nat) : value depth s = .ok (.scalar v, r) := by
  cases depth <;> exact bind_eq_ok.mpr ⟨_, h, rfl⟩

theorem members_eq_ok {step : σ → String → Reader σ} {n : Nat} {first : Bool} {x y : σ}
    {s r : List UInt8} :
    members step (n + 1) first x s = .ok (y, r) ↔
      (memberTurn first s = .ok (.close r) ∧ y = x) ∨
        ∃ s' name t z u, memberTurn first s = .ok (.next s') ∧ stringText s' = .ok (name, t) ∧
          step x name t = .ok (z, u) ∧ members step n false z u = .ok (y, r) := by
  rw [members, bind_eq_ok]
  constructor
  · rintro ⟨turn, ht, h⟩
    cases turn with
    | close r' =>
      cases h
      exact Or.inl ⟨ht, rfl⟩
    | next s' =>
      obtain ⟨⟨name, t⟩, hname, h⟩ := bind_eq_ok.mp h
      obtain ⟨⟨z, u⟩, hz, h⟩ := bind_eq_ok.mp h
      exact Or.inr ⟨s', name, t, z, u, ht, hname, hz, h⟩
  · rintro (⟨ht, rfl⟩ | ⟨s', name, t, z, u, ht, hname, hz, h⟩)
    · exact ⟨_, ht, rfl⟩
    · exact ⟨_, ht, bind_eq_ok.mpr ⟨_, hname, bind_eq_ok.mpr ⟨_, hz, h⟩⟩⟩

theorem members_invariant {step : σ → String → Reader σ} {P : σ → Prop}
    (hstep : ∀ x name s y r, P x → step x name s = .ok (y, r) → P y) :
    ∀ (n : Nat) (first : Bool) (x : σ) (s : List UInt8) (y : σ) (r : List UInt8),
      P x → members step n first x s = .ok (y, r) → P y
  | 0, _, _, _, _, _, _, h => by cases h
  | n + 1, first, x, s, y, r, hx, h => by
    rcases members_eq_ok.mp h with ⟨_, rfl⟩ | ⟨s', name, t, z, u, _, _, hz, h⟩
    · exact hx
    · exact members_invariant hstep n false z u y r (hstep _ _ _ _ _ hx hz) h

namespace Record

def Keeps (part : σ → β) (read : σ → Reader σ) : Prop :=
  ∀ x s y r, read x s = .ok (y, r) → part y = part x

theorem member?_eq_some {d : Record σ} {name : String} {f : Member σ} (h : d.member? name = some f) :
    f ∈ d.known ∧ f.name = name := by
  unfold member? at h
  exact ⟨List.mem_of_find?_eq_some h, by simpa using List.find?_some h⟩

def names? (d : Record σ) (x : σ) (s : List UInt8) : Option (List String) :=
  match start s with
  | .ok (.object, r) => ((objectOfMembers d.step ([], x) r).toOption).map (·.1.1)
  | _ => none

theorem step_keeps {d : Record σ} {part : σ → β} {name : String} {x₀ : σ}
    (hknown : ∀ f ∈ d.known, f.name ≠ name → Keeps part f.read)
    (hother : ∀ other, Keeps part fun x => d.other x other)
    (x : List String × σ) (other : String) (s : List UInt8) (y : List String × σ) (r : List UInt8)
    (hx : name ∉ x.1 → part x.2 = part x₀) (h : d.step x other s = .ok (y, r)) :
    name ∉ y.1 → part y.2 = part x₀ := by
  intro hy
  unfold step at h
  split at h
  · next f hf =>
    obtain ⟨hmem, hname⟩ := member?_eq_some hf
    split at h
    · cases h
    · obtain ⟨t, _, h⟩ := bind_eq_ok.mp h
      obtain ⟨⟨z, u⟩, hz, h⟩ := bind_eq_ok.mp h
      cases h
      rw [List.mem_cons, not_or] at hy
      have hne : f.name ≠ name := fun he => hy.1 (he.symm.trans hname)
      exact (hknown f hmem hne _ _ _ _ hz).trans (hx hy.2)
  · obtain ⟨⟨z, u⟩, hz, h⟩ := bind_eq_ok.mp h
    cases h
    exact (hother other _ _ _ _ hz).trans (hx hy)

theorem mem_names_of_ne {d : Record σ} {part : σ → β} {name : String}
    (hknown : ∀ f ∈ d.known, f.name ≠ name → Keeps part f.read)
    (hother : ∀ other, Keeps part fun x => d.other x other)
    {x y : σ} {s r : List UInt8} {ns : List String} (hread : d.read x s = .ok (y, r))
    (hns : d.names? x s = some ns) (hne : part y ≠ part x) : name ∈ ns := by
  refine Decidable.byContradiction fun hmem => ?_
  unfold names? at hns
  split at hns
  · next t hstart =>
    unfold read at hread
    simp only [hstart] at hread
    obtain ⟨⟨z, u⟩, hz, he⟩ := map_eq_ok.mp hread
    rw [hz] at hns
    cases he
    cases hns
    exact hne (members_invariant (P := fun z => name ∉ z.1 → part z.2 = part x)
      (fun x' other s' y' r' => step_keeps hknown hother x' other s' y' r')
      _ _ _ _ _ _ (fun _ => rfl) hz hmem)
  · cases hns

theorem step_invariant {d : Record σ} {P : σ → Prop}
    (hknown : ∀ f ∈ d.known, ∀ x s y r, P x → f.read x s = .ok (y, r) → P y)
    (hother : ∀ name, d.member? name = none →
      ∀ x s y r, P x → d.other x name s = .ok (y, r) → P y)
    (x : List String × σ) (name : String) (s : List UInt8) (y : List String × σ) (r : List UInt8)
    (hx : P x.2) (h : d.step x name s = .ok (y, r)) : P y.2 := by
  unfold step at h
  split at h
  · next f hf =>
    split at h
    · cases h
    · obtain ⟨t, _, h⟩ := bind_eq_ok.mp h
      obtain ⟨⟨z, u⟩, hz, h⟩ := bind_eq_ok.mp h
      cases h
      exact hknown f (member?_eq_some hf).1 _ _ _ _ hx hz
  · next hnone =>
    obtain ⟨⟨z, u⟩, hz, h⟩ := bind_eq_ok.mp h
    cases h
    exact hother name hnone _ _ _ _ hx hz

theorem read_invariant {d : Record σ} (hd : d.positional = false) {P : σ → Prop}
    (hknown : ∀ f ∈ d.known, ∀ x s y r, P x → f.read x s = .ok (y, r) → P y)
    (hother : ∀ name, d.member? name = none →
      ∀ x s y r, P x → d.other x name s = .ok (y, r) → P y)
    {x y : σ} {s r : List UInt8} (hx : P x) (h : d.read x s = .ok (y, r)) : P y := by
  unfold read at h
  split at h
  · obtain ⟨⟨z, u⟩, hz, he⟩ := map_eq_ok.mp h
    cases he
    exact members_invariant (P := fun z => P z.2) (step_invariant hknown hother) _ _ _ _ _ _ hx hz
  · simp [hd] at h
  · cases h

theorem exists_names {d : Record σ} (hd : d.positional = false) {x y : σ} {s r : List UInt8}
    (hread : d.read x s = .ok (y, r)) : ∃ ns, d.names? x s = some ns := by
  unfold read at hread
  unfold names?
  split at hread
  · next t hstart =>
    obtain ⟨z, hz, _⟩ := map_eq_ok.mp hread
    exact ⟨z.1.1, by simp [hstart, hz, Except.toOption]⟩
  · simp [hd] at hread
  · cases hread

end Record

end BearerCheck.Json
