import BearerCheck.Proofs.Dictionary
import BearerCheck.Settings.Basic
import Mathlib.Tactic.SplitIfs

namespace BearerCheck

def NamesHosts (entries : List (String × String)) : Prop := ∀ e ∈ entries, e.1 ≠ "" ∧ e.2 ≠ ""

structure Settings.Flawless (s : Settings) : Prop where
  subjects : "" ∉ s.subjects
  algorithms : "" ∉ s.algorithms
  skew : s.skew.toNat < 2 ^ 63
  timeout : s.certs.timeout ≠ 0
  hosts : NamesHosts s.certs.aliases

structure Overrides.Flawless (o : Overrides) : Prop where
  subjects : "" ∉ o.subjects
  algorithms : "" ∉ o.algorithms
  skew : ∀ k, o.skew = some k → k.toNat < 2 ^ 63
  timeout : ∀ t, o.timeout = some t → t ≠ 0

namespace Settings

theorem flaw?_eq_none {s : Settings} : s.flaw? = none ↔ s.Flawless := by
  have hskew : ¬ largestSkew < s.skew.toNat ↔ s.skew.toNat < 2 ^ 63 := by
    simp only [largestSkew]
    omega
  have hhosts : s.certs.aliases.find? hasEmptyHost = none ↔ NamesHosts s.certs.aliases := by
    simp [hasEmptyHost, NamesHosts]
  unfold flaw?
  constructor
  · intro h
    split_ifs at h with hsubjects halgorithms hlarge htimeout
    exact ⟨hsubjects, halgorithms, hskew.mp hlarge, htimeout,
      hhosts.mp (Option.map_eq_none_iff.mp h)⟩
  · intro h
    rw [if_neg h.subjects, if_neg h.algorithms, if_neg (hskew.mpr h.skew), if_neg h.timeout,
      hhosts.mpr h.hosts]
    rfl

section Override

variable {s : Settings} {o : Overrides}

theorem override_hosts (hs : NamesHosts s.certs.aliases) (ho : NamesHosts o.aliases) :
    NamesHosts (s.override o).certs.aliases := by
  intro e he
  rcases Dictionary.entry_of_mem_insertAll he with he | he
  · exact ho e he
  · exact hs e he

theorem getD_iff {α : Type} {P : α → Prop} {new : Option α} {old : α} (h : P old) :
    P (new.getD old) ↔ ∀ a, new = some a → P a := by
  cases new <;> simp [h]

theorem Flawless.override_iff (hs : s.Flawless) (ho : NamesHosts o.aliases) :
    (s.override o).Flawless ↔ o.Flawless := by
  have hsubjects : "" ∉ (s.override o).subjects ↔ "" ∉ o.subjects := by
    simp [override, hs.subjects]
  have halgorithms : "" ∉ (s.override o).algorithms ↔ "" ∉ o.algorithms := by
    simp [override, hs.algorithms]
  have hskew : (s.override o).skew.toNat < 2 ^ 63 ↔ ∀ k, o.skew = some k → k.toNat < 2 ^ 63 :=
    getD_iff (P := fun k : UInt64 => k.toNat < 2 ^ 63) hs.skew
  have htimeout : (s.override o).certs.timeout ≠ 0 ↔ ∀ t, o.timeout = some t → t ≠ 0 :=
    getD_iff (P := fun t : UInt64 => t ≠ 0) hs.timeout
  constructor
  · intro h
    exact ⟨hsubjects.mp h.subjects, halgorithms.mp h.algorithms, hskew.mp h.skew,
      htimeout.mp h.timeout⟩
  · intro h
    exact ⟨hsubjects.mpr h.subjects, halgorithms.mpr h.algorithms, hskew.mpr h.skew,
      htimeout.mpr h.timeout, override_hosts hs.hosts ho⟩

end Override

end Settings

end BearerCheck
