import BearerCheck.Dictionary
import Mathlib.Data.List.Induction
import Mathlib.Data.String.Basic

namespace BearerCheck.Dictionary

variable {α : Type}

def Ascending (d : List (String × α)) : Prop := d.Pairwise fun e f => e.1 < f.1

theorem entry_of_mem_insert {k : String} {v : α} {d : List (String × α)} {e : String × α}
    (h : e ∈ insert k v d) : e = (k, v) ∨ e ∈ d := by
  induction d with
  | nil => exact Or.inl (by simpa [insert] using h)
  | cons f d ih =>
    obtain ⟨j, w⟩ := f
    unfold insert at h
    split at h
    · rcases List.mem_cons.mp h with h | h
      · exact Or.inl h
      · exact Or.inr (List.mem_cons_of_mem _ h)
    · split at h
      · exact List.mem_cons.mp h
      · rcases List.mem_cons.mp h with h | h
        · exact Or.inr (h ▸ List.mem_cons_self)
        · exact (ih h).imp_right (List.mem_cons_of_mem _)

theorem insert_ascending (k : String) (v : α) {d : List (String × α)} (h : Ascending d) :
    Ascending (insert k v d) := by
  induction d with
  | nil => exact List.pairwise_singleton _ _
  | cons f d ih =>
    obtain ⟨j, w⟩ := f
    obtain ⟨hj, hd⟩ := List.pairwise_cons.mp h
    unfold insert
    split
    · next he =>
      subst he
      exact List.pairwise_cons.mpr ⟨hj, hd⟩
    · next hne =>
      split
      · next hlt =>
        refine List.pairwise_cons.mpr ⟨fun e he => ?_, h⟩
        rcases List.mem_cons.mp he with rfl | he
        · exact hlt
        · exact hlt.trans (hj e he)
      · next hge =>
        refine List.pairwise_cons.mpr ⟨fun e he => ?_, ih hd⟩
        rcases entry_of_mem_insert he with rfl | he
        · exact lt_of_le_of_ne (not_lt.mp hge) (Ne.symm hne)
        · exact hj e he

theorem find?_insert (j k : String) (v : α) (d : List (String × α)) :
    find? j (insert k v d) = if j = k then some v else find? j d := by
  induction d with
  | nil => rfl
  | cons f d ih =>
    obtain ⟨i, w⟩ := f
    by_cases hi : k = i
    · subst hi
      simp only [insert, ↓reduceIte, find?]
      split_ifs <;> rfl
    · by_cases hlt : k < i
      · simp only [insert, hi, hlt, ↓reduceIte, find?]
      · simp only [insert, hi, hlt, ↓reduceIte, find?, ih]
        by_cases hj : j = i
        · subst hj
          simp [Ne.symm hi]
        · simp [hj]

theorem find?_eq_some {d : List (String × α)} (h : Ascending d) (k : String) (v : α) :
    find? k d = some v ↔ (k, v) ∈ d := by
  induction d with
  | nil => simp [find?]
  | cons e d ih =>
    obtain ⟨j, w⟩ := e
    obtain ⟨hlow, hd⟩ := List.pairwise_cons.mp h
    by_cases hk : k = j
    · subst hk
      have hmem : (k, v) ∉ d := fun hmem => lt_irrefl k (hlow _ hmem)
      simp [find?, hmem, eq_comm]
    · simp [find?, hk, ih hd]

theorem entry_of_mem_insertAll {es d : List (String × α)} {e : String × α}
    (h : e ∈ insertAll d es) : e ∈ es ∨ e ∈ d := by
  induction es generalizing d with
  | nil => exact Or.inr h
  | cons f es ih =>
    rcases ih (d := insert f.1 f.2 d) h with he | he
    · exact Or.inl (List.mem_cons_of_mem _ he)
    · rcases entry_of_mem_insert he with rfl | he
      · exact Or.inl List.mem_cons_self
      · exact Or.inr he

theorem insertAll_ascending (es : List (String × α)) {d : List (String × α)} (h : Ascending d) :
    Ascending (insertAll d es) := by
  induction es generalizing d with
  | nil => exact h
  | cons e es ih => exact ih (insert_ascending e.1 e.2 h)

theorem ofList_ascending (es : List (String × α)) : Ascending (ofList es) :=
  insertAll_ascending es List.Pairwise.nil

theorem ofList_append (es fs : List (String × α)) : ofList (es ++ fs) = insertAll (ofList es) fs :=
  insertAll_append [] es fs

def last? (k : String) (es : List (String × α)) : Option α :=
  ((es.filter fun e => e.1 = k).getLast?).map (·.2)

theorem last?_append (k : String) (es fs : List (String × α)) :
    last? k (es ++ fs) = (last? k fs).or (last? k es) := by
  simp [last?, List.filter_append, List.getLast?_append, Option.map_or]

theorem last?_concat (k : String) (es : List (String × α)) (e : String × α) :
    last? k (es ++ [e]) = if e.1 = k then some e.2 else last? k es := by
  rw [last?_append]
  split_ifs with h <;> simp [last?, h]

theorem last?_eq_none {k : String} {es : List (String × α)} (h : ∀ e ∈ es, e.1 ≠ k) :
    last? k es = none := by
  simpa [last?, List.filter_eq_nil_iff] using h

theorem find?_insertAll (k : String) (d es : List (String × α)) :
    find? k (insertAll d es) = (last? k es).or (find? k d) := by
  induction es using List.reverseRecOn with
  | nil => rfl
  | append_singleton es e ih =>
    rw [insertAll_append, last?_concat]
    change find? k (insert e.1 e.2 (insertAll d es)) = _
    rw [find?_insert, ih]
    by_cases hk : k = e.1
    · rw [if_pos hk, if_pos hk.symm, Option.some_or]
    · rw [if_neg hk, if_neg (Ne.symm hk)]

theorem find?_ofList (k : String) (es : List (String × α)) : find? k (ofList es) = last? k es := by
  rw [ofList, find?_insertAll]
  exact Option.or_none

theorem insert_behind {k : String} {d : List (String × α)} (h : ∀ e ∈ d, e.1 < k) (v : α) :
    insert k v d = d ++ [(k, v)] := by
  induction d with
  | nil => rfl
  | cons e d ih =>
    have he : e.1 < k := h e List.mem_cons_self
    rw [insert, if_neg he.ne', if_neg he.not_gt, ih fun f hf => h f (List.mem_cons_of_mem _ hf)]
    rfl

theorem ofList_of_ascending {d : List (String × α)} (h : Ascending d) : ofList d = d := by
  induction d using List.reverseRecOn with
  | nil => rfl
  | append_singleton d e ih =>
    obtain ⟨hd, _, hlast⟩ := List.pairwise_append.mp h
    rw [ofList_append, ih hd]
    exact insert_behind (fun f hf => hlast f hf e (by simp)) e.2

theorem Ascending.nodup {d : List (String × α)} (h : Ascending d) : d.Nodup :=
  h.imp fun hlt he => hlt.ne (congrArg Prod.fst he)

theorem ext_find? {d d' : List (String × α)} (h : Ascending d) (h' : Ascending d')
    (hfind : ∀ k, find? k d = find? k d') : d = d' := by
  have hmem (e : String × α) : e ∈ d ↔ e ∈ d' := by
    rw [← find?_eq_some h, ← find?_eq_some h', hfind]
  have hperm : d.Perm d' := (List.perm_ext_iff_of_nodup h.nodup h'.nodup).mpr hmem
  exact hperm.eq_of_pairwise (fun e f _ _ hef hfe => absurd hfe hef.not_gt) h h'

end BearerCheck.Dictionary
