import BearerCheck.Text.Trim
import Mathlib.Data.List.DropRight
import Mathlib.Data.List.TakeWhile
import Mathlib.Tactic.SplitIfs

namespace BearerCheck.Text

variable {α : Type} {blank : α → Bool}

theorem trim_eq_nil {xs : List α} (h : ∀ x ∈ xs, blank x = true) : trim blank xs = [] := by
  rw [trim, List.dropWhile_eq_nil_iff.mpr h]
  rfl

theorem trim_eq_nil_iff (xs : List α) : trim blank xs = [] ↔ ∀ x ∈ xs, blank x = true := by
  constructor
  · intro h
    have hdrop : ∀ x ∈ xs.dropWhile blank, blank x = true := by
      simpa [trim, List.dropWhile_eq_nil_iff] using h
    intro x hx
    rw [← List.takeWhile_append_dropWhile (p := blank) (l := xs), List.mem_append] at hx
    rcases hx with hx | hx
    · exact List.mem_takeWhile_imp hx
    · exact hdrop x hx
  · exact trim_eq_nil

theorem trim_eq_self {a b : α} (ha : blank a = false) (hb : blank b = false) (xs : List α) :
    trim blank (a :: (xs ++ [b])) = a :: (xs ++ [b]) := by
  have hfront : (a :: (xs ++ [b])).dropWhile blank = a :: (xs ++ [b]) :=
    List.dropWhile_cons_of_neg (by simp [ha])
  have hback : (b :: (xs.reverse ++ [a])).dropWhile blank = b :: (xs.reverse ++ [a]) :=
    List.dropWhile_cons_of_neg (by simp [hb])
  have hreverse : (a :: (xs ++ [b])).reverse = b :: (xs.reverse ++ [a]) := by simp
  rw [trim, hfront, hreverse, hback]
  simp

theorem trim_append {front back : List α} (hfront : ∀ x ∈ front, blank x = true)
    (hback : ∀ x ∈ back, blank x = true) (xs : List α) :
    trim blank (front ++ xs ++ back) = trim blank xs := by
  rw [List.append_assoc, trim, trim, List.dropWhile_append_of_pos hfront, List.dropWhile_append]
  split
  · next h =>
    rw [List.isEmpty_iff] at h
    rw [h, List.dropWhile_eq_nil_iff.mpr hback]
  · rw [List.reverse_append, List.dropWhile_append_of_pos fun x hx => hback x (List.mem_reverse.mp hx)]

section Stop

variable {p : α → Bool} {s t : List α}

theorem takeWhile_stop (ht : ∀ c ∈ t.head?, p c = false) (s : List α) :
    (s ++ t).takeWhile p = s.takeWhile p := by
  have hnil : t.takeWhile p = [] := by
    cases t with
    | nil => rfl
    | cons c t => exact List.takeWhile_cons_of_neg (by simp [ht c rfl])
  rw [List.takeWhile_append, hnil, List.append_nil]
  split_ifs with hlength
  · exact ((List.takeWhile_prefix p).eq_of_length hlength).symm
  · rfl

theorem dropWhile_stop (ht : ∀ c ∈ t.head?, p c = false) (s : List α) :
    (s ++ t).dropWhile p = s.dropWhile p ++ t := by
  have hall : t.dropWhile p = t := by
    cases t with
    | nil => rfl
    | cons c t => exact List.dropWhile_cons_of_neg (by simp [ht c rfl])
  rw [List.dropWhile_append, hall]
  split_ifs with hempty
  · rw [List.isEmpty_iff.mp hempty, List.nil_append]
  · rfl

theorem rdropWhile_append {c : α} (hc : p c = false) (s t : List α) :
    (s ++ [c] ++ t).rdropWhile p = s ++ [c] ++ t.rdropWhile p := by
  induction t using List.reverseRecOn with
  | nil =>
    rw [List.append_nil, List.rdropWhile_nil, List.append_nil]
    exact List.rdropWhile_concat_neg p s c (by simp [hc])
  | append_singleton t x ih =>
    rw [← List.append_assoc]
    by_cases hx : p x = true
    · rw [List.rdropWhile_concat_pos p _ x hx, List.rdropWhile_concat_pos p t x hx, ih]
    · rw [List.rdropWhile_concat_neg p _ x hx, List.rdropWhile_concat_neg p t x hx,
        List.append_assoc]

theorem trim_front (hs : ∃ c ∈ s.getLast?, p c = false) (t : List α) :
    trim p (s ++ t) = s.dropWhile p ++ t.rdropWhile p := by
  obtain ⟨c, hc, hkept⟩ := hs
  obtain ⟨s, rfl⟩ := List.getLast?_eq_some_iff.mp hc
  have hlast : ∃ s', (s ++ [c]).dropWhile p = s' ++ [c] := by
    rw [List.dropWhile_append]
    split_ifs
    · exact ⟨[], List.dropWhile_cons_of_neg (by simp [hkept])⟩
    · exact ⟨_, rfl⟩
  obtain ⟨s', hs'⟩ := hlast
  have hdrop : (s ++ [c] ++ t).dropWhile p = s' ++ [c] ++ t := by
    rw [List.dropWhile_append, hs']
    simp
  calc trim p (s ++ [c] ++ t)
      = ((s ++ [c] ++ t).dropWhile p).rdropWhile p := rfl
    _ = s' ++ [c] ++ t.rdropWhile p := by rw [hdrop, rdropWhile_append hkept]
    _ = (s ++ [c]).dropWhile p ++ t.rdropWhile p := by rw [hs']

end Stop

/-- A cut into a front and an end that are blank and a middle part. The front is the longest, and
the end is the longest of what the front leaves. -/
structure IsCut (blank : α → Bool) (xs front mid back : List α) : Prop where
  whole : xs = front ++ mid ++ back
  front_blank : ∀ x ∈ front, blank x = true
  front_longest : ∀ bs, bs <+: xs → (∀ x ∈ bs, blank x = true) → bs.length ≤ front.length
  back_blank : ∀ x ∈ back, blank x = true
  back_longest : ∀ bs, bs <:+ mid ++ back → (∀ x ∈ bs, blank x = true) → bs.length ≤ back.length

theorem length_le_takeWhile {bs xs : List α} (h : bs <+: xs) (hbs : ∀ x ∈ bs, blank x = true) :
    bs.length ≤ (xs.takeWhile blank).length := by
  obtain ⟨rest, rfl⟩ := h
  rw [List.takeWhile_append_of_pos hbs, List.length_append]
  exact Nat.le_add_right _ _

theorem isCut_trim (blank : α → Bool) (xs : List α) :
    IsCut blank xs (xs.takeWhile blank) (trim blank xs) ((xs.dropWhile blank).rtakeWhile blank) := by
  have hrest : trim blank xs ++ (xs.dropWhile blank).rtakeWhile blank = xs.dropWhile blank :=
    List.rdropWhile_append_rtakeWhile
  constructor
  case whole => rw [List.append_assoc, hrest, List.takeWhile_append_dropWhile]
  case front_blank => exact fun x hx => List.mem_takeWhile_imp hx
  case front_longest => exact fun bs hbs hblank => length_le_takeWhile hbs hblank
  case back_blank => exact fun x hx => List.mem_rtakeWhile_imp hx
  case back_longest =>
    intro bs hbs hblank
    rw [hrest, ← List.reverse_prefix] at hbs
    rw [List.rtakeWhile, List.length_reverse]
    have hle := length_le_takeWhile hbs fun x hx => hblank x (List.mem_reverse.mp hx)
    rwa [List.length_reverse] at hle

theorem IsCut.unique {xs front mid back front' mid' back' : List α}
    (h : IsCut blank xs front mid back) (h' : IsCut blank xs front' mid' back') :
    front = front' ∧ mid = mid' ∧ back = back' := by
  have hprefix : front <+: xs := ⟨mid ++ back, by rw [h.whole, List.append_assoc]⟩
  have hprefix' : front' <+: xs := ⟨mid' ++ back', by rw [h'.whole, List.append_assoc]⟩
  have hlength : front.length = front'.length := by
    apply Nat.le_antisymm
    · exact h'.front_longest front hprefix h.front_blank
    · exact h.front_longest front' hprefix' h'.front_blank
  have hwhole : front ++ (mid ++ back) = front' ++ (mid' ++ back') := by
    rw [← List.append_assoc, ← List.append_assoc, ← h.whole, h'.whole]
  obtain ⟨hfront, hrest⟩ := List.append_inj hwhole hlength
  have hsuffix : back <:+ mid' ++ back' := ⟨mid, hrest⟩
  have hsuffix' : back' <:+ mid ++ back := ⟨mid', hrest.symm⟩
  have hlength' : back.length = back'.length := by
    apply Nat.le_antisymm
    · exact h'.back_longest back hsuffix h.back_blank
    · exact h.back_longest back' hsuffix' h'.back_blank
  obtain ⟨hmid, hback⟩ := List.append_inj' hrest hlength'
  exact ⟨hfront, hmid, hback⟩

theorem isCut_isBlank_iff (s t : String) :
    (∃ front back, IsCut isBlank s.toList front t.toList back) ↔ t = trimBlank s := by
  have hcut := isCut_trim isBlank s.toList
  constructor
  · rintro ⟨front, back, h⟩
    rw [trimBlank, ← (h.unique hcut).2.1, String.ofList_toList]
  · rintro rfl
    rw [trimBlank, String.toList_ofList]
    exact ⟨_, _, hcut⟩

theorem middleStart_eq (blank : α → Bool) (xs : List α) :
    middleStart blank xs = (xs.takeWhile blank).length := by
  rw [middleStart, ← List.findIdx_eq_getD_findIdx?, List.takeWhile_eq_take_findIdx_not,
    List.length_take, Nat.min_eq_left List.findIdx_le_length]

theorem findIdx?_of_blank {xs : List α} (h : ∀ x ∈ xs, blank x = true) :
    xs.findIdx? (!blank ·) = none := by
  rw [List.findIdx?_eq_none_iff]
  intro x hx
  rw [h x hx]
  rfl

theorem middleStop_eq (blank : α → Bool) (xs : List α) :
    middleStop blank xs = middleStart blank xs + (trim blank xs).length := by
  by_cases hblank : ∀ x ∈ xs, blank x = true
  · have hnone : xs.reverse.findIdx? (!blank ·) = none :=
      findIdx?_of_blank fun x hx => hblank x (List.mem_reverse.mp hx)
    rw [middleStop, hnone, trim_eq_nil hblank]
    rfl
  · -- the search from the end passes over the blank end only, for the middle part ends solid
    have hcut := isCut_trim blank xs
    have hsolid : (xs.dropWhile blank).reverse.dropWhile blank ≠ [] := fun hnil =>
      hblank ((trim_eq_nil_iff xs).mp (by rw [trim, hnil]; rfl))
    obtain ⟨c, cs, hc⟩ := List.exists_cons_of_ne_nil hsolid
    have hlast : blank c = false := by
      have hhead := List.head_dropWhile_not blank hsolid
      simpa only [hc, List.head_cons] using hhead
    have hmid : (trim blank xs).reverse = c :: cs := by rw [trim, hc, List.reverse_reverse]
    have hback : ((xs.dropWhile blank).rtakeWhile blank).reverse.findIdx? (!blank ·) = none :=
      findIdx?_of_blank fun x hx => hcut.back_blank x (List.mem_reverse.mp hx)
    have hfind : xs.reverse.findIdx? (!blank ·) =
        some ((xs.dropWhile blank).rtakeWhile blank).length := by
      have hreverse := congrArg List.reverse hcut.whole
      rw [List.reverse_append, List.reverse_append, hmid] at hreverse
      rw [hreverse, List.findIdx?_append, hback, List.cons_append, List.findIdx?_cons, hlast]
      simp
    have hlength := congrArg List.length hcut.whole
    rw [List.length_append, List.length_append, ← middleStart_eq] at hlength
    rw [middleStop, hfind, Option.map_some, Option.getD_some]
    omega

namespace IsCut

variable {xs front mid back : List α} (h : IsCut blank xs front mid back)

include h

theorem start : middleStart blank xs = front.length := by
  rw [middleStart_eq, (h.unique (isCut_trim blank xs)).1]

theorem stop : middleStop blank xs = (front ++ mid).length := by
  rw [middleStop_eq, h.start, ← (h.unique (isCut_trim blank xs)).2.1, List.length_append]

theorem front_eq : front = xs.take (middleStart blank xs) := by
  rw [h.start, h.whole, List.append_assoc, List.take_left]

theorem mid_eq : mid = middle blank xs := by
  rw [middle, List.extract_eq_take_drop, h.start, h.stop, h.whole, List.append_assoc,
    List.drop_left, List.length_append, Nat.add_sub_cancel_left, List.take_left]

theorem back_eq : back = xs.drop (middleStop blank xs) := by
  rw [h.stop, h.whole, List.drop_left]

end IsCut

theorem isCut_iff (xs front mid back : List α) :
    IsCut blank xs front mid back ↔ front = xs.take (middleStart blank xs) ∧
      mid = middle blank xs ∧ back = xs.drop (middleStop blank xs) := by
  constructor
  · intro h
    exact ⟨h.front_eq, h.mid_eq, h.back_eq⟩
  · rintro ⟨rfl, rfl, rfl⟩
    have hcut := isCut_trim blank xs
    rwa [hcut.front_eq, hcut.mid_eq, hcut.back_eq] at hcut

theorem middle_eq_trim (blank : α → Bool) (xs : List α) : middle blank xs = trim blank xs :=
  (isCut_trim blank xs).mid_eq.symm

theorem middle_bounds (blank : α → Bool) (xs : List α) :
    middleStart blank xs ≤ middleStop blank xs ∧ middleStop blank xs ≤ xs.length := by
  have hcut := isCut_trim blank xs
  have hlength := congrArg List.length hcut.whole
  rw [List.length_append] at hlength
  rw [hcut.stop, hcut.start, List.length_append] at *
  omega

end BearerCheck.Text
