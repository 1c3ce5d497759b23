import BearerCheck.Url.Reader
import Mathlib.Tactic.SplitIfs

namespace BearerCheck.Url

namespace Segments

variable {ss done : List (List Char)} {s r : List Char}

theorem visible_append (s t : List Char) : visible (s ++ t) = visible s ++ visible t :=
  List.filter_append _ _

theorem split_ne_nil (backslash : Bool) (s : List Char) : split backslash s ≠ [] := by
  cases s with
  | nil => exact List.cons_ne_nil _ _
  | cons c s =>
    rw [split]
    split_ifs
    · exact List.cons_ne_nil _ _
    · split <;> exact List.cons_ne_nil _ _

theorem split_slash (backslash : Bool) (s : List Char) :
    split backslash (s ++ ['/']) = split backslash s ++ [[]] := by
  induction s with
  | nil => rfl
  | cons c s ih =>
    obtain ⟨x, xs, hs⟩ := List.exists_cons_of_ne_nil (split_ne_nil backslash s)
    rw [List.cons_append, split, split, ih, hs]
    split_ifs <;> rfl

theorem resolve_push_ne_nil (h : ss ≠ [] ∨ done ≠ []) : resolve push done ss ≠ [] := by
  induction ss generalizing done with
  | nil => simpa [resolve] using h
  | cons s r ih =>
    rw [resolve]
    split
    · split_ifs with hr
      · simp
      · exact ih (Or.inl hr)
    · split_ifs with hr
      · simp
      · exact ih (Or.inl hr)
    · exact ih (Or.inr (List.cons_ne_nil _ _))

theorem resolve_push_empty (h : ss ≠ []) :
    resolve push done (ss ++ [[]]) = resolve push done ss ++ [[]] ∨
      (resolve push done ss).getLast? = some [] := by
  induction ss generalizing done with
  | nil => exact absurd rfl h
  | cons s r ih =>
    have hne : r ++ [[]] ≠ [] := by simp
    rw [List.cons_append, resolve, resolve]
    split
    · rw [if_neg hne]
      split_ifs with hr
      · right
        simp
      · exact ih hr
    · rw [if_neg hne]
      split_ifs with hr
      · right
        simp
      · exact ih hr
    · cases r with
      | nil =>
        left
        simp [resolve, dots?, visible, push, Percent.encode]
      | cons s r => exact ih (List.cons_ne_nil _ _)

theorem toList_text (ss : List (List Char)) : (text ss).toList = ss.flatMap ('/' :: ·) := by
  rw [text, String.toList_ofList]

theorem text_slash (ss : List (List Char)) : text (ss ++ [[]]) = text ss ++ "/" := by
  apply String.toList_injective
  rw [String.toList_append, toList_text, toList_text, List.flatMap_append]
  rfl

theorem text_starts (h : ss ≠ []) : (text ss).toList.head? = some '/' := by
  obtain ⟨s, r, rfl⟩ := List.exists_cons_of_ne_nil h
  rw [toList_text]
  rfl

theorem text_ends (h : ss.getLast? = some []) : (text ss).toList.getLast? = some '/' := by
  obtain ⟨ts, rfl⟩ := List.getLast?_eq_some_iff.mp h
  rw [toList_text, List.flatMap_append, List.getLast?_append]
  rfl

end Segments

open Segments

theorem pathAfter_starts (s : List Char) :
    ∃ p, pathAfter true s = .segments false p ∧ p.toList.head? = some '/' := by
  have hbuild (r : List Char) : (text (resolve push [] (split true r))).toList.head? = some '/' :=
    text_starts (resolve_push_ne_nil (Or.inl (split_ne_nil true r)))
  unfold pathAfter
  cases s with
  | nil => exact ⟨"/", rfl, rfl⟩
  | cons c r =>
    dsimp only
    split_ifs
    · exact ⟨_, rfl, hbuild r⟩
    · exact ⟨_, rfl, hbuild (c :: r)⟩

theorem pathAfter_slash {s : List Char} {p : String} (h : pathAfter true s = .segments false p)
    (hp : p.toList.getLast? ≠ some '/') :
    pathAfter true (s ++ ['/']) = .segments false (p ++ "/") := by
  have hbuild (r : List Char) (hr : text (resolve push [] (split true r)) = p) :
      text (resolve push [] (split true (r ++ ['/']))) = p ++ "/" := by
    rw [split_slash]
    rcases resolve_push_empty (split_ne_nil true r) with hempty | hlast
    · rw [hempty, text_slash, hr]
    · exact absurd (hr ▸ text_ends hlast) hp
  unfold pathAfter at h ⊢
  cases s with
  | nil =>
    cases h
    exact absurd rfl hp
  | cons c r =>
    rw [List.cons_append]
    dsimp only at h ⊢
    split_ifs at h ⊢
    · rw [Path.segments.injEq] at h
      rw [hbuild r h.2]
    · rw [Path.segments.injEq] at h
      rw [← List.cons_append, hbuild (c :: r) h.2]

end BearerCheck.Url
