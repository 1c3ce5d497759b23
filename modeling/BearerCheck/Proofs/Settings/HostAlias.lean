import BearerCheck.Proofs.Text.Trim
import BearerCheck.Settings.HostAlias

namespace BearerCheck.HostAlias

open Text

theorem split?_eq_some {text x y : List Char} :
    split? text = some (x, y) ↔ text = x ++ '=' :: y ∧ '=' ∉ x := by
  unfold split?
  constructor
  · intro h
    split at h
    · cases h
    · next c target hdrop =>
      cases h
      have hc : c = '=' := by
        have hhead := List.head?_dropWhile_not (fun c : Char => decide (c ≠ '=')) text
        rw [hdrop] at hhead
        simpa using hhead
      subst hc
      refine ⟨?_, fun hmem => by simpa using List.mem_takeWhile_imp hmem⟩
      rw [← hdrop, List.takeWhile_append_dropWhile]
  · rintro ⟨rfl, hx⟩
    have hpart : ∀ c ∈ x, decide (c ≠ '=') = true :=
      fun c hc => decide_eq_true (ne_of_mem_of_not_mem hc hx)
    rw [List.dropWhile_append_of_pos hpart, List.takeWhile_append_of_pos hpart]
    simp

theorem read_of_split? {text : String} {x y : List Char} (h : split? text.toList = some (x, y))
    (source target : String) :
    read text = .ok (source, target) ↔
      source = String.ofList (trim isBlank x) ∧ target = String.ofList (trim isBlank y) ∧
        source ≠ "" ∧ target ≠ "" := by
  have hfilled (c : Char) (cs : List Char) : String.ofList (c :: cs) ≠ "" := by simp
  unfold read
  rw [h]
  dsimp only
  cases trim isBlank x with
  | nil =>
    refine ⟨nofun, ?_⟩
    rintro ⟨rfl, _, hsource, _⟩
    exact absurd rfl hsource
  | cons c cs =>
    cases trim isBlank y with
    | nil =>
      refine ⟨nofun, ?_⟩
      rintro ⟨_, rfl, _, htarget⟩
      exact absurd rfl htarget
    | cons d ds =>
      constructor
      · intro hok
        cases hok
        exact ⟨rfl, rfl, hfilled c cs, hfilled d ds⟩
      · rintro ⟨rfl, rfl, _, _⟩
        rfl

theorem read_eq_ok {text source target : String} :
    read text = .ok (source, target) ↔
      ∃ x y, text = x ++ "=" ++ y ∧ '=' ∉ x.toList ∧
        (∃ front back, IsCut isBlank x.toList front source.toList back) ∧
        (∃ front back, IsCut isBlank y.toList front target.toList back) ∧
        source ≠ "" ∧ target ≠ "" := by
  simp only [isCut_isBlank_iff]
  constructor
  · intro h
    cases hsplit : split? text.toList with
    | none =>
      rw [read, hsplit] at h
      cases h
    | some parts =>
      obtain ⟨x, y⟩ := parts
      obtain ⟨htext, hx⟩ := split?_eq_some.mp hsplit
      obtain ⟨rfl, rfl, hne⟩ := (read_of_split? hsplit source target).mp h
      refine ⟨String.ofList x, String.ofList y, ?_, ?_, ?_, ?_, hne⟩
      · apply String.toList_injective
        simpa using htext
      · simpa using hx
      · simp [trimBlank]
      · simp [trimBlank]
  · rintro ⟨x, y, rfl, hx, hsource, htarget, hne⟩
    have hsplit : split? (x ++ "=" ++ y).toList = some (x.toList, y.toList) := by
      rw [split?_eq_some]
      exact ⟨by simp, hx⟩
    exact (read_of_split? hsplit source target).mpr ⟨hsource, htarget, hne⟩

end BearerCheck.HostAlias
