import BearerCheck.Json.Text
import BearerCheck.Proofs.Json.Object

namespace BearerCheck.Json

open Text

variable {α β : Type}

/-- A text that starts like a value, so that it cannot be taken for the end of an array. -/
def Opens (text : List UInt8) : Prop :=
  ∃ c r, text = c :: r ∧ isSpace c = false ∧ c ≠ Ascii.closeBracket

def elementsTail (ts : List (List UInt8)) : List UInt8 :=
  ts.flatMap (Ascii.comma :: ·) ++ [Ascii.closeBracket]

def arrayTail : List (List UInt8) → List UInt8
  | [] => [Ascii.closeBracket]
  | t :: ts => t ++ elementsTail ts

theorem arrayOf_eq (ts : List (List UInt8)) : arrayOf ts = Ascii.openBracket :: arrayTail ts := by
  cases ts with
  | nil => rfl
  | cons t ts => simp [arrayOf, arrayTail, elementsTail]

theorem start_arrayOf (ts : List (List UInt8)) (rest : List UInt8) :
    start (arrayOf ts ++ rest) = .ok (.array, arrayTail ts ++ rest) := by
  rw [arrayOf_eq]
  rfl

theorem elementsTail_cons (t : List UInt8) (ts : List (List UInt8)) (rest : List UInt8) :
    elementsTail (t :: ts) ++ rest = Ascii.comma :: (t ++ (elementsTail ts ++ rest)) := by
  simp [elementsTail]

theorem elementsTail_head (ts : List (List UInt8)) (rest : List UInt8) :
    ∃ b t, elementsTail ts ++ rest = b :: t ∧ EndsValue b := by
  cases ts with
  | nil => exact ⟨_, _, rfl, Or.inr (Or.inr rfl)⟩
  | cons t ts => exact ⟨_, _, rfl, Or.inl rfl⟩

theorem elementsTail_length (ts : List (List UInt8)) : ts.length < (elementsTail ts).length := by
  induction ts with
  | nil => simp [elementsTail]
  | cons t ts ih =>
    simp only [elementsTail, List.flatMap_cons, List.length_append, List.length_cons] at *
    omega

theorem elementTurn_close (first : Bool) (rest : List UInt8) :
    elementTurn first (Ascii.closeBracket :: rest) = .ok (.close rest) := by
  cases first <;> rfl

theorem elementTurn_first {t : List UInt8} (ht : Opens t) (rest : List UInt8) :
    elementTurn true (t ++ rest) = .ok (.next (t ++ rest)) := by
  obtain ⟨c, r, rfl, hspace, hclose⟩ := ht
  have hskip : skipSpace (c :: (r ++ rest)) = c :: (r ++ rest) :=
    List.dropWhile_cons_of_neg (by simp [hspace])
  rw [List.cons_append, elementTurn, hskip]
  simp only [hclose, ↓reduceIte]

theorem elementTurn_next {t : List UInt8} (ht : Opens t) (rest : List UInt8) :
    elementTurn false (Ascii.comma :: (t ++ rest)) = .ok (.next (t ++ rest)) := by
  obtain ⟨c, r, rfl, hspace, hclose⟩ := ht
  have hskip : skipSpace (c :: (r ++ rest)) = c :: (r ++ rest) :=
    List.dropWhile_cons_of_neg (by simp [hspace])
  have hcomma (s : List UInt8) : skipSpace (Ascii.comma :: s) = Ascii.comma :: s := rfl
  have hne : Ascii.comma ≠ Ascii.closeBracket := by decide
  rw [List.cons_append, elementTurn, hcomma]
  simp only [hne, hskip, hclose, Bool.false_eq_true, ↓reduceIte]

theorem elements_close (item : Reader β) (n : Nat) (first : Bool) (rest : List UInt8) :
    elements item (n + 1) first (Ascii.closeBracket :: rest) = .ok ([], rest) := by
  rw [elements, elementTurn_close]
  rfl

theorem elements_first (item : Reader β) (n : Nat) {t : List UInt8} (ht : Opens t)
    (ts : List (List UInt8)) (rest : List UInt8) :
    elements item n true (arrayTail (t :: ts) ++ rest) =
      elements item n false (elementsTail (t :: ts) ++ rest) := by
  have hfirst : arrayTail (t :: ts) ++ rest = t ++ (elementsTail ts ++ rest) := by simp [arrayTail]
  cases n with
  | zero => rfl
  | succ n =>
    rw [elements, elements, hfirst, elementsTail_cons, elementTurn_first ht, elementTurn_next ht]

variable {item : Reader β} {text : α → List UInt8} {f : α → β}

theorem elements_map {xs : List α} (h : ∀ x ∈ xs, Opens (text x) ∧ Takes item (text x) (f x))
    (rest : List UInt8) :
    ∀ n, xs.length < n →
      elements item n false (elementsTail (xs.map text) ++ rest) = .ok (xs.map f, rest) := by
  induction xs with
  | nil =>
    intro n hn
    cases n with
    | zero => omega
    | succ n => exact elements_close item n false rest
  | cons x xs ih =>
    intro n hn
    cases n with
    | zero => omega
    | succ n =>
      obtain ⟨hopens, htakes⟩ := h x List.mem_cons_self
      obtain ⟨b, t, he, hb⟩ := elementsTail_head (xs.map text) rest
      have hread : item (text x ++ (elementsTail (xs.map text) ++ rest)) =
          .ok (f x, elementsTail (xs.map text) ++ rest) := by
        rw [he]
        exact htakes b t hb
      have hrest := ih (fun y hy => h y (List.mem_cons_of_mem _ hy)) n (by simpa using hn)
      rw [List.map_cons, elementsTail_cons, elements, elementTurn_next hopens]
      simp only [bind, Except.bind, hread, hrest, List.map_cons]

theorem arrayOfItems_map {xs : List α} (h : ∀ x ∈ xs, Opens (text x) ∧ Takes item (text x) (f x))
    (rest : List UInt8) :
    arrayOfItems item (arrayTail (xs.map text) ++ rest) = .ok (xs.map f, rest) := by
  unfold arrayOfItems
  cases xs with
  | nil => exact elements_close item _ true rest
  | cons x xs =>
    have hlength := elementsTail_length (xs.map text)
    rw [List.map_cons, elements_first item _ (h x List.mem_cons_self).1, ← List.map_cons]
    refine elements_map h rest _ ?_
    simp only [List.map_cons, arrayTail, List.length_append, List.length_cons, List.length_map] at *
    omega

end BearerCheck.Json
