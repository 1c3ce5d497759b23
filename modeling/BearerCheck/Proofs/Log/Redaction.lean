import BearerCheck.Log.Redaction
import Mathlib.Order.Basic

namespace BearerCheck.Log

variable {s t : String}

theorem front_append_rest (s : String) : front s ++ String.ofList (s.toList.drop shown) = s := by
  rw [front, ← String.ofList_append, List.take_append_drop, String.ofList_toList]

theorem toList_front (s : String) : (front s).toList = s.toList.take shown := String.toList_ofList

theorem length_front (s : String) : (front s).length = min shown s.length := by
  rw [front, String.length_ofList, List.length_take, String.length_toList]

theorem front_of_short (hs : s.length ≤ shown) : front s = s := by
  rw [front, List.take_of_length_le (by rwa [String.length_toList]), String.ofList_toList]

/-- Bytes and characters agree on whether a rest is left out, for no character has no bytes. -/
theorem front_fewer_bytes (s : String) :
    (front s).utf8ByteSize < s.utf8ByteSize ↔ shown < s.length := by
  constructor
  · intro hbytes
    by_contra hs
    rw [front_of_short (Nat.le_of_not_lt hs)] at hbytes
    exact Nat.lt_irrefl _ hbytes
  · intro hs
    have hrest : String.ofList (s.toList.drop shown) ≠ "" := by
      intro hempty
      have hlength := congrArg String.length hempty
      rw [String.length_ofList, List.length_drop, String.length_toList] at hlength
      have hzero : "".length = 0 := rfl
      omega
    have hpos : (String.ofList (s.toList.drop shown)).utf8ByteSize ≠ 0 := by
      intro hzero
      exact hrest (String.utf8ByteSize_eq_zero_iff.mp hzero)
    have hsize := congrArg String.utf8ByteSize (front_append_rest s)
    rw [String.utf8ByteSize_append] at hsize
    omega

theorem redact_of_short (hs : s.length ≤ shown) : redact s = s := by
  have hbytes : ¬ (front s).utf8ByteSize < s.utf8ByteSize := by
    rw [front_fewer_bytes]
    exact Nat.not_lt.mpr hs
  rw [redact, if_neg hbytes, front_of_short hs]

theorem redact_of_long (hs : shown < s.length) : redact s = front s ++ omission s.utf8ByteSize := by
  rw [redact, if_pos ((front_fewer_bytes s).mpr hs)]

theorem omission_inj {m n : ℕ} : omission m = omission n ↔ m = n := by
  constructor
  · intro h
    rw [omission, omission, String.append_left_inj, String.append_right_inj] at h
    have hdigits : Nat.toDigits 10 m = Nat.toDigits 10 n := by
      rw [← Nat.toList_repr, ← Nat.toList_repr, ← Nat.toString_eq_repr, ← Nat.toString_eq_repr, h]
    have hread := congrArg (Nat.ofDigitChars 10 · 0) hdigits
    simpa only [Nat.ofDigitChars_ten_toDigits] using hread
  · rintro rfl
    rfl

theorem length_redact_le (s : String) : (redact s).length ≤ shown ↔ s.length ≤ shown := by
  rcases Nat.lt_or_ge shown s.length with hs | hs
  · have hfront := length_front s
    have homission : 0 < (omission s.utf8ByteSize).length := by
      have hopen : "...(".length = 4 := rfl
      rw [omission, String.length_append, String.length_append, hopen]
      omega
    rw [redact_of_long hs, String.length_append]
    omega
  · rw [redact_of_short hs]

theorem redact_eq_short (s : String) (ht : t.length ≤ shown) : redact s = t ↔ s = t := by
  constructor
  · rintro rfl
    have hs := (length_redact_le s).mp ht
    exact (redact_of_short hs).symm
  · rintro rfl
    exact redact_of_short ht

theorem redact_eq_of_long (hs : shown < s.length) (ht : shown < t.length) :
    redact s = redact t ↔ front s = front t ∧ s.utf8ByteSize = t.utf8ByteSize := by
  rw [redact_of_long hs, redact_of_long ht]
  constructor
  · intro h
    have hlength : (front s).toList.length = (front t).toList.length := by
      rw [String.length_toList, String.length_toList, length_front, length_front]
      omega
    rw [← String.toList_inj, String.toList_append, String.toList_append] at h
    obtain ⟨hfront, homission⟩ := List.append_inj h hlength
    exact ⟨String.toList_inj.mp hfront, omission_inj.mp (String.toList_inj.mp homission)⟩
  · rintro ⟨hfront, hbytes⟩
    rw [hfront, hbytes]

theorem redact_eq_of_short (s : String) (ht : t.length ≤ shown) :
    redact s = redact t ↔ front s = front t ∧ s.utf8ByteSize = t.utf8ByteSize := by
  rw [redact_of_short ht, redact_eq_short s ht, front_of_short ht]
  constructor
  · rintro rfl
    exact ⟨front_of_short ht, rfl⟩
  · rintro ⟨hfront, hbytes⟩
    by_cases hs : shown < s.length
    · -- a rest has bytes, so the front of a longer token cannot be a text of as many as the token
      have hfewer := (front_fewer_bytes s).mpr hs
      rw [hfront, hbytes] at hfewer
      exact absurd hfewer (Nat.lt_irrefl _)
    · rwa [front_of_short (Nat.le_of_not_lt hs)] at hfront

theorem redact_eq_redact (s t : String) :
    redact s = redact t ↔ front s = front t ∧ s.utf8ByteSize = t.utf8ByteSize := by
  rcases Nat.lt_or_ge shown t.length with ht | ht
  · rcases Nat.lt_or_ge shown s.length with hs | hs
    · exact redact_eq_of_long hs ht
    · have h := redact_eq_of_short t hs
      rwa [eq_comm, eq_comm (a := front t), eq_comm (a := t.utf8ByteSize)] at h
  · exact redact_eq_of_short s ht

theorem front_eq_front (s t : String) :
    front s = front t ↔ s.toList.take shown = t.toList.take shown := by
  rw [← String.toList_inj, toList_front, toList_front]

theorem redact_reveals (s t : String) :
    (redact s = redact t ↔
      s.toList.take 12 = t.toList.take 12 ∧ s.utf8ByteSize = t.utf8ByteSize) ∧
    (redact s = t ∧ t.length ≤ 12 ↔ s = t ∧ t.length ≤ 12) := by
  constructor
  · rw [redact_eq_redact, front_eq_front]
    rfl
  · exact and_congr_left fun ht => redact_eq_short s ht

example : redact "äöüäöüäöüäöüa" = "äöüäöüäöüäöü...(25 bytes)" := by decide +kernel

/-- A long token may be written just like what stands for it. -/
example : redact "aaaaaaaaaaaa...(25 bytes)" = "aaaaaaaaaaaa...(25 bytes)" := by decide +kernel

end BearerCheck.Log
