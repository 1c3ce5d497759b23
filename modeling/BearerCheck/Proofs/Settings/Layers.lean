import BearerCheck.Proofs.Dictionary
import BearerCheck.Settings.Basic

namespace BearerCheck

open Dictionary

/-- Both layers in one, the second on top of the first. -/
def Overrides.andThen (o₁ o₂ : Overrides) : Overrides where
  subjects := o₁.subjects ++ o₂.subjects
  algorithms := o₁.algorithms ++ o₂.algorithms
  aliases := o₁.aliases ++ o₂.aliases
  skew := o₂.skew.or o₁.skew
  timeout := o₂.timeout.or o₁.timeout

namespace Settings

theorem override_override (s : Settings) (o₁ o₂ : Overrides) :
    (s.override o₁).override o₂ = s.override (o₁.andThen o₂) := by
  have hsubjects : s.subjects ++ o₁.subjects ++ o₂.subjects =
      s.subjects ++ (o₁.subjects ++ o₂.subjects) := List.append_assoc _ _ _
  have halgorithms : s.algorithms ++ o₁.algorithms ++ o₂.algorithms =
      s.algorithms ++ (o₁.algorithms ++ o₂.algorithms) := List.append_assoc _ _ _
  have haliases : insertAll (insertAll s.certs.aliases o₁.aliases) o₂.aliases =
      insertAll s.certs.aliases (o₁.aliases ++ o₂.aliases) := (insertAll_append _ _ _).symm
  simp only [override, Overrides.andThen, hsubjects, halgorithms, haliases, Option.getD_or]

theorem override_empty (s : Settings) : s.override {} = s := by
  simp [override, insertAll]

theorem alias_override (s : Settings) (o : Overrides) (host : String) :
    find? host (s.override o).certs.aliases =
      (last? host o.aliases).or (find? host s.certs.aliases) :=
  find?_insertAll host s.certs.aliases o.aliases

theorem override_layers (s : Settings) (o₁ o₂ : Overrides) :
    (s.override o₁).override o₂ = s.override (o₁.andThen o₂) ∧ s.override {} = s ∧
    ∀ o : Overrides,
      (∀ host, find? host (s.override o).certs.aliases =
        (last? host o.aliases).or (find? host s.certs.aliases)) ∧
      (s.override o).subjects = s.subjects ++ o.subjects ∧
      (s.override o).algorithms = s.algorithms ++ o.algorithms ∧
      (s.override o).skew = o.skew.getD s.skew ∧
      (s.override o).certs.timeout = o.timeout.getD s.certs.timeout :=
  ⟨override_override s o₁ o₂, override_empty s,
    fun o => ⟨alias_override s o, rfl, rfl, rfl, rfl⟩⟩

example :
    let s : Settings := { subjects := ["alice"], certs := { aliases := [("idp", "a")] } }
    let o₁ : Overrides := { subjects := ["alice"], aliases := [("idp", "b")], skew := some 5 }
    let o₂ : Overrides :=
      { aliases := [("idp", "c"), ("kc", "d"), ("idp", "e")], timeout := some 9 }
    let certs : Certs := { timeout := 9, aliases := [("idp", "e"), ("kc", "d")] }
    (s.override o₁).override o₂ = { subjects := ["alice", "alice"], skew := 5, certs } := by
  decide

end Settings

end BearerCheck
