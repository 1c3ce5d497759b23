import BearerCheck.Yaml.Token
import Mathlib.Data.List.Basic

namespace BearerCheck.Yaml

def IsPrintable (c : Char) : Prop := 0x20 ≤ c.toNat ∧ c.toNat ≤ 0x7E

instance (c : Char) : Decidable (IsPrintable c) := instDecidableAnd

namespace IsPrintable

variable {c : Char}

theorem isAllowed (h : IsPrintable c) : isAllowed c = true := by
  simp [Yaml.isAllowed, h.1, h.2]

theorem ne {d : Char} (h : IsPrintable c) (hd : ¬ IsPrintable d) : c ≠ d := by
  rintro rfl
  exact hd h

theorem isBreak (h : IsPrintable c) : isBreak c = false := by
  have hn : c ≠ '\n' := h.ne (by decide)
  have hl : c ≠ '\u2028' := h.ne (by decide)
  have hp : c ≠ '\u2029' := h.ne (by decide)
  simp [Yaml.isBreak, hn, hl, hp]

theorem isBlank_iff (h : IsPrintable c) : isBlank c = true ↔ c = ' ' := by
  have ht : c ≠ '\t' := h.ne (by decide)
  simp [isBlank, ht]

theorem utf8Size (h : IsPrintable c) : c.utf8Size = 1 := by
  have hle : c.val ≤ 0x7F := UInt32.le_iff_toNat_le.mpr (Nat.le_trans h.2 (by decide))
  exact Char.utf8Size_eq_one_iff.mpr hle

theorem next (h : IsPrintable c) (m : Mark) : m.next c = ⟨m.index + 1, m.line, m.column + 1⟩ := by
  rw [Mark.next, h.isBreak, h.utf8Size]
  rfl

end IsPrintable

theorem after_printable {s : List Char} (h : ∀ c ∈ s, IsPrintable c) (m : Mark) :
    m.after s = ⟨m.index + s.length, m.line, m.column + s.length⟩ := by
  induction s generalizing m with
  | nil => rfl
  | cons c s ih =>
    obtain ⟨hc, hs⟩ := List.forall_mem_cons.mp h
    have hrest := ih hs (m.next c)
    rw [Mark.after] at hrest
    rw [Mark.after, List.foldl_cons, hrest, hc.next, List.length_cons]
    simp only [Nat.add_assoc, Nat.add_comm 1]

/-- A character that a plain scalar may start with, and that does not end it anywhere. -/
def IsPlain (c : Char) : Prop := IsPrintable c ∧ c ∉ ' ' :: '.' :: Lexer.indicators

instance (c : Char) : Decidable (IsPlain c) := instDecidableAnd

namespace IsPlain

variable {c : Char}

theorem ne {d : Char} (h : IsPlain c) (hd : d ∈ ' ' :: '.' :: Lexer.indicators) : c ≠ d := by
  rintro rfl
  exact h.2 hd

theorem isBlank (h : IsPlain c) : isBlank c = false := by
  rw [Bool.eq_false_iff, ne_eq, h.1.isBlank_iff]
  exact h.ne (by decide)

end IsPlain

def IsVerbatim (c : Char) : Prop := IsPrintable c ∧ c ≠ '"' ∧ c ≠ '\\'

instance (c : Char) : Decidable (IsVerbatim c) := instDecidableAnd

-- by the characters of the text, not by all there are
instance (text : List Char) : Decidable (∀ c ∈ text, IsPlain c) := List.decidableBAll _ text

instance (text : List Char) : Decidable (∀ c ∈ text, IsVerbatim c) := List.decidableBAll _ text

theorem atMarker_of_ne {c : Char} (hdash : c ≠ '-') (hdot : c ≠ '.') (r : List Char) :
    atMarker (c :: r) = false := by
  unfold atMarker
  split
  · next h =>
    cases h
    simp [hdash, hdot]
  · rfl

theorem plain?_word {word rest : List Char} (hword : ∀ c ∈ word, IsPlain c)
    (hrest : endsWord rest = true) (indent : Int) :
    ∀ (inWord : Bool) (column : ℕ), plain? false indent inWord column .none (word ++ ':' :: rest) =
      some ⟨word, ':' :: rest, false⟩ := by
  induction word with
  | nil =>
    intro inWord column
    have hmarker : atMarker (':' :: rest) = false := atMarker_of_ne (by decide) (by decide) rest
    have hblank : isBlank ':' = false := rfl
    have hbreak : isBreak ':' = false := rfl
    have hstray : strayColon false ':' rest = false := rfl
    have hends : endsPlain false ':' rest = true := by simp [endsPlain, hrest]
    simp [plain?, hmarker, hblank, hbreak, hstray, hends, Gap.isNone, Gap.none]
  | cons c word ih =>
    intro inWord column
    obtain ⟨hc, hword⟩ := List.forall_mem_cons.mp hword
    have hmarker : atMarker (c :: (word ++ ':' :: rest)) = false :=
      atMarker_of_ne (hc.ne (by decide)) (hc.ne (by decide)) _
    have hcomment : c ≠ '#' := hc.ne (by decide)
    have hstray : strayColon false c (word ++ ':' :: rest) = false := rfl
    have hends : endsPlain false c (word ++ ':' :: rest) = false := by
      have hcolon : c ≠ ':' := hc.ne (by decide)
      simp [endsPlain, hcolon]
    have hnext := ih hword true (column + 1)
    have hnone : Gap.none.isNone = true := rfl
    simp only [List.cons_append, plain?, hc.isBlank, hc.1.isBreak, hmarker, hcomment, hstray, hends,
      hnone, hnext]
    simp [Scanned.prepend, Gap.text, Gap.none]

theorem double?_verbatim {text : List Char} (htext : ∀ c ∈ text, IsVerbatim c) (rest : List Char) :
    ∀ (column : ℕ) (g : Gap), 0 < column → g.broken = false →
      double? .text column g (text ++ '"' :: rest) = some (g.text ++ text, rest) := by
  induction text with
  | nil =>
    intro column g hcolumn _
    have hblank : isBlank '"' = false := rfl
    have hbreak : isBreak '"' = false := rfl
    simp [double?, hblank, hbreak, Nat.ne_of_gt hcolumn]
  | cons c text ih =>
    intro column g hcolumn hg
    obtain ⟨⟨hc, hquote, hescape⟩, htext⟩ := List.forall_mem_cons.mp htext
    by_cases hblank : isBlank c = true
    · have hbroken : (g.addBlank c).broken = false := by simp [Gap.addBlank, hg]
      have hadded : (g.addBlank c).text = g.text ++ [c] := by simp [Gap.addBlank, Gap.text, hg]
      rw [List.cons_append, double?, if_pos hblank, ih htext _ _ (Nat.succ_pos _) hbroken, hadded,
        List.append_assoc, List.singleton_append]
    · have hnext := ih htext (column + 1) .none (Nat.succ_pos _) rfl
      have hnone : Gap.none.text = [] := rfl
      simp [double?, hblank, hc.isBreak, Nat.ne_of_gt hcolumn, hquote, hescape, hnext, hnone]

end BearerCheck.Yaml
