import BearerCheck.Proofs.Json.Record
import Mathlib.Data.List.Forall2

namespace BearerCheck.Json

variable {σ τ : Type} {R : σ → τ → Prop}

def Follows (R : σ → τ → Prop) (read : σ → Reader σ) (read' : τ → Reader τ) : Prop :=
  ∀ x x' s y r, R x x' → read x s = .ok (y, r) → ∃ y', read' x' s = .ok (y', r) ∧ R y y'

theorem members_follows {step : σ → String → Reader σ} {step' : τ → String → Reader τ}
    (hstep : ∀ name, Follows R (fun x => step x name) (fun x => step' x name)) :
    ∀ (n : Nat) (first : Bool), Follows R (members step n first) (members step' n first)
  | 0, _, _, _, _, _, _, _, h => by cases h
  | n + 1, first, x, x', s, y, r, hx, h => by
    rcases members_eq_ok.mp h with ⟨ht, rfl⟩ | ⟨s', name, t, z, u, ht, hname, hz, h⟩
    · exact ⟨x', members_eq_ok.mpr (Or.inl ⟨ht, rfl⟩), hx⟩
    · obtain ⟨z', hz', hR⟩ := hstep name x x' t z u hx hz
      obtain ⟨y', hy', hR⟩ := members_follows hstep n false z z' u y r hR h
      exact ⟨y', members_eq_ok.mpr (Or.inr ⟨s', name, t, z', u, ht, hname, hz', hy'⟩), hR⟩

namespace Record

def MembersFollow (R : σ → τ → Prop) : List (Member σ) → List (Member τ) → Prop :=
  List.Forall₂ fun f g => f.name = g.name ∧ Follows R f.read g.read

theorem inOrder_follows {fs : List (Member σ)} {gs : List (Member τ)} (h : MembersFollow R fs gs) :
    ∀ first, Follows R (fun x => inOrder first x fs) (fun x => inOrder first x gs) := by
  induction h with
  | nil =>
    intro first x x' s y r hx hread
    obtain ⟨r', hr, he⟩ := bind_eq_ok.mp hread
    cases he
    exact ⟨x', bind_eq_ok.mpr ⟨_, hr, rfl⟩, hx⟩
  | @cons f g fs gs hfg _ ih =>
    intro first x x' s y r hx hread
    obtain ⟨turn, ht, hread⟩ := bind_eq_ok.mp hread
    cases turn with
    | close r' =>
      cases hread
      exact ⟨x', bind_eq_ok.mpr ⟨_, ht, rfl⟩, hx⟩
    | next s' =>
      obtain ⟨⟨z, u⟩, hz, hread⟩ := bind_eq_ok.mp hread
      obtain ⟨z', hz', hR⟩ := hfg.2 x x' s' z u hx hz
      obtain ⟨y', hy', hR⟩ := ih false z z' u y r hR hread
      exact ⟨y', bind_eq_ok.mpr ⟨_, ht, bind_eq_ok.mpr ⟨_, hz', hy'⟩⟩, hR⟩

structure RecordFollows (R : σ → τ → Prop) (d : Record σ) (e : Record τ) : Prop where
  known : MembersFollow R d.known e.known
  other : ∀ name, Follows R (fun x => d.other x name) (fun x => e.other x name)
  positional : d.positional = e.positional

theorem member?_follows {d : Record σ} {e : Record τ} (h : MembersFollow R d.known e.known)
    (name : String) :
    (d.member? name = none ∧ e.member? name = none) ∨
      ∃ f g, d.member? name = some f ∧ e.member? name = some g ∧ Follows R f.read g.read := by
  unfold member?
  generalize d.known = fs, e.known = gs at h ⊢
  induction h with
  | nil => exact Or.inl ⟨rfl, rfl⟩
  | @cons f g fs gs hfg _ ih =>
    by_cases hname : f.name = name
    · refine Or.inr ⟨f, g, ?_, ?_, hfg.2⟩
      · exact List.find?_cons_of_pos (by simpa using hname)
      · exact List.find?_cons_of_pos (by simpa [← hfg.1] using hname)
    · rw [List.find?_cons_of_neg (by simpa using hname),
        List.find?_cons_of_neg (by simpa [← hfg.1] using hname)]
      exact ih

theorem step_follows {d : Record σ} {e : Record τ} (h : RecordFollows R d e) (name : String) :
    Follows (fun x x' => x.1 = x'.1 ∧ R x.2 x'.2) (fun x => d.step x name)
      (fun x => e.step x name) := by
  rintro ⟨ns, x⟩ ⟨ns', x'⟩ s y r ⟨hns, hx⟩ hread
  dsimp only at hns hx
  subst hns
  unfold step at hread ⊢
  rcases member?_follows h.known name with ⟨hd, he⟩ | ⟨f, g, hd, he, hfg⟩
  · simp only [hd, he] at hread ⊢
    obtain ⟨⟨z, u⟩, hz, hread⟩ := bind_eq_ok.mp hread
    cases hread
    obtain ⟨z', hz', hR⟩ := h.other name x x' s z u hx hz
    exact ⟨(ns, z'), bind_eq_ok.mpr ⟨_, hz', rfl⟩, rfl, hR⟩
  · simp only [hd, he] at hread ⊢
    split at hread
    · cases hread
    · next hmem =>
      obtain ⟨t, ht, hread⟩ := bind_eq_ok.mp hread
      obtain ⟨⟨z, u⟩, hz, hread⟩ := bind_eq_ok.mp hread
      cases hread
      obtain ⟨z', hz', hR⟩ := hfg x x' t z u hx hz
      rw [if_neg hmem]
      exact ⟨(name :: ns, z'), bind_eq_ok.mpr ⟨_, ht, bind_eq_ok.mpr ⟨_, hz', rfl⟩⟩, rfl, hR⟩

theorem read_follows {d : Record σ} {e : Record τ} (h : RecordFollows R d e) :
    Follows R d.read e.read := by
  intro x x' s y r hx hread
  unfold read at hread ⊢
  split at hread
  · obtain ⟨⟨⟨ns, z⟩, u⟩, hz, he⟩ := map_eq_ok.mp hread
    cases he
    obtain ⟨⟨ns', z'⟩, hz', _, hR⟩ := members_follows (step_follows h) _ _ ([], x) ([], x') _ _ _
      ⟨rfl, hx⟩ hz
    exact ⟨z', map_eq_ok.mpr ⟨_, hz', rfl⟩, hR⟩
  · split at hread
    · next hpos =>
      rw [if_pos (h.positional ▸ hpos)]
      exact inOrder_follows h.known true x x' _ y r hx hread
    · cases hread
  · cases hread

theorem document_follows {d : Record σ} {e : Record τ} (h : RecordFollows R d e) {x : σ} {x' : τ}
    (hx : R x x') {s : List UInt8} {y : σ} (hread : document (d.read x) s = .ok y) :
    ∃ y', document (e.read x') s = .ok y' ∧ R y y' := by
  obtain ⟨r, hr, hs⟩ := document_eq_ok.mp hread
  obtain ⟨y', hy', hR⟩ := read_follows h x x' s y r hx hr
  exact ⟨y', document_eq_ok.mpr ⟨r, hy', hs⟩, hR⟩

end Record

end BearerCheck.Json
