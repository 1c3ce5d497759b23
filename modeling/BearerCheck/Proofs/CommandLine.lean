import BearerCheck.CommandLine
import BearerCheck.Proofs.Settings.HostAlias
import BearerCheck.Proofs.Settings.Validity

namespace BearerCheck

def HostAlias.AllRead (entries : List (String × String)) : Prop :=
  ∀ e ∈ entries, ∃ text, HostAlias.read text = .ok e

theorem HostAlias.AllRead.namesHosts {entries : List (String × String)} (h : AllRead entries) :
    NamesHosts entries := by
  intro e he
  obtain ⟨text, htext⟩ := h e he
  obtain ⟨_, _, _, _, _, _, hne⟩ := read_eq_ok.mp htext
  exact hne

namespace CommandLine

open HostAlias

section Invariant

variable {P : Options → Prop}

theorem slot_error_ne_serve {a : Argument} {r : Request} (h : a.slot = .error r) (o : Options) :
    r ≠ .serve o := by
  rintro rfl
  unfold Argument.slot at h
  split at h
  · split at h <;> cases h
  · split at h <;> cases h
  · cases h

theorem readFrom_cons {o o' : Options} {a : String} {rest : List String}
    (h : readFrom o (a :: rest) = .serve o') :
    o' = o ∨ ∃ text slot o₁ rest', o.set? text slot = some o₁ ∧ rest' <:+ rest ∧
      readFrom o₁ rest' = .serve o' := by
  rw [readFrom] at h
  split at h
  · split_ifs at h
    cases h
    exact Or.inl rfl
  · split at h
    · next r hslot => exact absurd h (slot_error_ne_serve hslot o')
    · next slot value _ =>
      split at h
      · next o₁ hvalue => exact Or.inr ⟨_, slot, o₁, _, hvalue, List.suffix_rfl, h⟩
      · cases h
    · cases h
    · next slot text rest _ =>
      split at h
      · next o₁ hvalue =>
        split_ifs at hvalue
        exact Or.inr ⟨text, slot, o₁, rest, hvalue, List.suffix_cons text rest, h⟩
      · cases h

theorem readFrom_invariant
    (hset : ∀ o o' text slot, Options.set? o text slot = some o' → P o → P o') {o o' : Options}
    {arguments : List String} (h : readFrom o arguments = .serve o') (ho : P o) : P o' := by
  induction hlength : arguments.length using Nat.strong_induction_on generalizing o arguments with
  | _ n ih =>
    cases arguments with
    | nil =>
      cases h
      exact ho
    | cons a rest =>
      rcases readFrom_cons h with rfl | ⟨text, slot, o₁, rest', hvalue, hsuffix, hrest⟩
      · exact ho
      · have hshorter : rest'.length < n := by
          have hle : rest'.length ≤ rest.length := hsuffix.length_le
          rw [← hlength, List.length_cons]
          omega
        exact ih _ hshorter hrest (hset o o₁ text slot hvalue ho) rfl

end Invariant

theorem set?_allRead (o o' : Options) (text : String) (slot : Slot)
    (h : o.set? text slot = some o') (ho : AllRead o.overrides.aliases) :
    AllRead o'.overrides.aliases := by
  cases slot with
  | hostAlias =>
    obtain ⟨entry, hentry, he⟩ := Option.bind_eq_some_iff.mp h
    cases he
    have hread : HostAlias.read text = .ok entry := by
      cases hread : HostAlias.read text with
      | error e =>
        rw [hread] at hentry
        cases hentry
      | ok e =>
        rw [hread] at hentry
        cases hentry
        rfl
    intro e he
    rcases List.mem_append.mp he with he | he
    · exact ho e he
    · exact ⟨text, List.mem_singleton.mp he ▸ hread⟩
  | subject =>
    cases h
    exact ho
  | algorithm =>
    cases h
    exact ho
  | config | skew | timeout | logFormat =>
    obtain ⟨_, _, he⟩ := Option.bind_eq_some_iff.mp h
    cases he
    exact ho

theorem read_allRead {arguments : List String} {o : Options} (h : read arguments = .serve o) :
    AllRead o.overrides.aliases :=
  readFrom_invariant (P := fun o => AllRead o.overrides.aliases) set?_allRead h nofun

end CommandLine

namespace Settings

open HostAlias

theorem flaw?_override_iff {s : Settings} (hs : s.flaw? = none) {o : Overrides}
    (ho : AllRead o.aliases) : (s.override o).flaw? = none ↔ o.Flawless :=
  flaw?_eq_none.trans ((flaw?_eq_none.mp hs).override_iff ho.namesHosts)

theorem flaw?_override (s : Settings) (hs : s.flaw? = none) (o : Overrides)
    (ho : ∀ e ∈ o.aliases, ∃ text, HostAlias.read text = .ok e) :
    ((s.override o).flaw? = none ↔ o.Flawless) ∧
    (s.override { aliases := o.aliases }).flaw? = none ∧
    (∀ arguments options, CommandLine.read arguments = .serve options →
      ((s.override options.overrides).flaw? = none ↔ options.overrides.Flawless)) ∧
    ∀ text source target, HostAlias.read text = .ok (source, target) ↔
      ∃ x y, text = x ++ "=" ++ y ∧ '=' ∉ x.toList ∧
        (∃ front back, Text.IsCut Text.isBlank x.toList front source.toList back) ∧
        (∃ front back, Text.IsCut Text.isBlank y.toList front target.toList back) ∧
        source ≠ "" ∧ target ≠ "" := by
  have halone : Overrides.Flawless { aliases := o.aliases } := ⟨nofun, nofun, nofun, nofun⟩
  have haliases : (s.override { aliases := o.aliases }).flaw? = none :=
    (flaw?_override_iff (o := { aliases := o.aliases }) hs ho).mpr halone
  refine ⟨flaw?_override_iff hs ho, haliases, ?_, ?_⟩
  · intro arguments options h
    exact flaw?_override_iff hs (CommandLine.read_allRead h)
  · exact fun text source target => read_eq_ok

theorem flaw?_override_later_equals :
    let s : Settings := { certs := { aliases := [("idp", "a")] } }
    let o : Overrides :=
      { aliases := [("kc", "b"), ("idp", "c=d")], skew := some 0x7FFFFFFFFFFFFFFF }
    s.flaw? = none ∧ (∀ e ∈ o.aliases, ∃ text, HostAlias.read text = .ok e) ∧
      (s.override o).flaw? = none := by
  intro s o
  have hs : s.flaw? = none := by decide
  have ho : ∀ e ∈ o.aliases, ∃ text, HostAlias.read text = .ok e := by
    intro e he
    rcases List.mem_cons.mp he with rfl | he
    · exact ⟨"kc=b", by decide +kernel⟩
    · cases List.mem_singleton.mp he
      exact ⟨"\u00A0idp = c=d\t", by decide +kernel⟩
  have hflawless : o.Flawless := by
    refine ⟨nofun, nofun, ?_, nofun⟩
    intro k hk
    cases hk
    decide
  exact ⟨hs, ho, (flaw?_override s hs o ho).1.mpr hflawless⟩

end Settings

end BearerCheck
