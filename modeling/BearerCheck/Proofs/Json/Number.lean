import BearerCheck.Json.Reader
import BearerCheck.Proofs.Outcome
import BearerCheck.Proofs.Text.Utf8
import Mathlib.Tactic.SplitIfs

namespace BearerCheck.Json

open Text

def EndsValue (b : UInt8) : Prop :=
  b = Ascii.comma ∨ b = Ascii.closeBrace ∨ b = Ascii.closeBracket

def decimal (n : Nat) : List Nat := (Nat.toDigits 10 n).map fun c => c.toNat - 48

theorem decimal_of_lt {n : Nat} (hn : n < 10) : decimal n = [n] := by
  rw [decimal, Nat.toDigits_of_lt_base hn, List.map_singleton,
    Nat.toNat_digitChar_sub_48_of_lt_ten hn]

theorem decimal_of_ge {n : Nat} (hn : 10 ≤ n) : decimal n = decimal (n / 10) ++ [n % 10] := by
  rw [decimal, Nat.toDigits_of_base_le (by omega) hn, List.map_append, List.map_singleton,
    Nat.toNat_digitChar_sub_48_of_lt_ten (by omega)]
  rfl

theorem decimal_lt_ten (n : Nat) : ∀ d ∈ decimal n, d < 10 := by
  induction n using Nat.strongRecOn with
  | ind n ih =>
    intro d hd
    rcases Nat.lt_or_ge n 10 with hn | hn
    · rw [decimal_of_lt hn, List.mem_singleton] at hd
      omega
    · rw [decimal_of_ge hn, List.mem_append, List.mem_singleton] at hd
      rcases hd with hd | rfl
      · exact ih (n / 10) (by omega) d hd
      · omega

def digitsValue (n : Nat) (ds : List Nat) : Nat := ds.foldl (fun n d => 10 * n + d) n

theorem digitsValue_decimal (n : Nat) : digitsValue 0 (decimal n) = n := by
  have h := Nat.ofDigitChars_ten_toDigits (n := n)
  rw [Nat.ofDigitChars_eq_foldl] at h
  rw [digitsValue, decimal, List.foldl_map]
  exact h

theorem decimal_head (n : Nat) : ∃ d ds, decimal n = d :: ds ∧ (d = 0 → ds = []) := by
  induction n using Nat.strongRecOn with
  | ind n ih =>
    rcases Nat.lt_or_ge n 10 with hn | hn
    · exact ⟨n, [], decimal_of_lt hn, fun _ => rfl⟩
    · obtain ⟨d, ds, he, hd⟩ := ih (n / 10) (by omega)
      refine ⟨d, ds ++ [n % 10], by rw [decimal_of_ge hn, he]; rfl, fun h0 => ?_⟩
      have hvalue := digitsValue_decimal (n / 10)
      rw [he, hd h0, h0] at hvalue
      simp only [digitsValue, List.foldl_cons, List.foldl_nil] at hvalue
      omega

theorem le_digitsValue (n : Nat) (ds : List Nat) : n ≤ digitsValue n ds := by
  induction ds generalizing n with
  | nil => exact Nat.le_refl n
  | cons d ds ih =>
    have := ih (10 * n + d)
    simp only [digitsValue, List.foldl_cons] at this ⊢
    omega

theorem appendDigits_eq {n : Nat} {ds : List Nat} (h : digitsValue n ds < UInt64.size) :
    appendDigits n ds = (digitsValue n ds, []) := by
  induction ds generalizing n with
  | nil => rfl
  | cons d ds ih =>
    have hle := le_digitsValue (10 * n + d) ds
    have hnext : digitsValue n (d :: ds) = digitsValue (10 * n + d) ds := rfl
    rw [hnext] at h
    rw [appendDigits, if_pos (Nat.lt_of_le_of_lt hle h), ih h, hnext]

def digitByte (d : Nat) : UInt8 := 0x30 + d.toUInt8

theorem digit?_digitByte : ∀ d < 10, Ascii.digit? (digitByte d) = some d := by decide

theorem utf8EncodeChar_digitChar :
    ∀ d < 10, String.utf8EncodeChar (Nat.digitChar d) = [digitByte d] := by decide

theorem encode_toString (n : Nat) : Utf8.encode (toString n) = (decimal n).map digitByte := by
  rw [Nat.toString_eq_repr]
  induction n using Nat.strongRecOn with
  | ind n ih =>
    rw [Nat.repr_eq_ofList_toDigits, Utf8.encode_ofList] at *
    rcases Nat.lt_or_ge n 10 with hn | hn
    · rw [Nat.toDigits_of_lt_base hn, decimal_of_lt hn]
      simp [utf8EncodeChar_digitChar n hn]
    · have hrest := ih (n / 10) (by omega)
      rw [Nat.repr_eq_ofList_toDigits, Utf8.encode_ofList] at hrest
      rw [Nat.toDigits_of_base_le (by omega) hn, decimal_of_ge hn, List.flatMap_append, hrest]
      simp [utf8EncodeChar_digitChar (n % 10) (by omega)]

theorem digits_map {ds : List Nat} (hds : ∀ d ∈ ds, d < 10) {b : UInt8} (hb : Ascii.digit? b = none)
    (rest : List UInt8) : digits (ds.map digitByte ++ b :: rest) = (ds, b :: rest) := by
  induction ds with
  | nil => simp [digits, hb]
  | cons d ds ih =>
    have hd := digit?_digitByte d (hds d (by simp))
    rw [List.map_cons, List.cons_append, digits, hd, ih fun e he => hds e (List.mem_cons_of_mem _ he)]

theorem numberText_decimal (negative : Bool) (n : Nat) {b : UInt8} (hb : EndsValue b)
    (rest : List UInt8) :
    numberText negative ((decimal n).map digitByte ++ b :: rest) =
      .ok (⟨negative, decimal n, [], false, []⟩, b :: rest) := by
  have hdigit : Ascii.digit? b = none := by rcases hb with rfl | rfl | rfl <;> rfl
  obtain ⟨d, ds, he, hd⟩ := decimal_head n
  have hsome : someDigits ((decimal n).map digitByte ++ b :: rest) = .ok (decimal n, b :: rest) := by
    rw [someDigits, digits_map (decimal_lt_ten n) hdigit, he]
  have hwhole : wholePart ((decimal n).map digitByte ++ b :: rest) = .ok (decimal n, b :: rest) := by
    rw [wholePart, hsome]
    split
    · next h =>
      rw [he] at h
      cases h
      exact absurd (hd rfl) (List.cons_ne_nil _ _)
    · rfl
  have hfraction : fractionPart (b :: rest) = .ok ([], b :: rest) := by
    rcases hb with rfl | rfl | rfl <;> rfl
  have hexponent : exponentPart (b :: rest) = .ok ((false, []), b :: rest) := by
    rcases hb with rfl | rfl | rfl <;> rfl
  simp only [numberText, hwhole, hfraction, hexponent, bind, Except.bind]

theorem integer?_decimal {negative : Bool} {n : Nat} (i : Integer)
    (hi : i.val = if negative then -(n : Int) else n) (hzero : ¬ (negative = true ∧ n = 0)) :
    NumberText.integer? ⟨negative, decimal n, [], false, []⟩ = some i := by
  obtain ⟨i, hrange⟩ := i
  dsimp only at hi
  subst hi
  have hsize : n < UInt64.size := by
    have hsize : UInt64.size = 0x10000000000000000 := rfl
    cases negative <;> simp only [Bool.false_eq_true, ↓reduceIte] at hrange <;> omega
  -- below the size of a word no digit is left over, and a zero without a sign is no float
  have hdigits : appendDigits 0 (decimal n) = (n, []) := by
    rw [appendDigits_eq] <;> rw [digitsValue_decimal]
    exact hsize
  simp only [NumberText.integer?, hdigits, and_self, ↓reduceIte]
  rw [dif_pos hrange, if_neg hzero]

theorem number_decimal (negative : Bool) (n : Nat) (i : Integer)
    (hi : i.val = if negative then -(n : Int) else n) (hzero : ¬ (negative = true ∧ n = 0))
    {b : UInt8} (hb : EndsValue b) (rest : List UInt8) :
    number negative ((decimal n).map digitByte ++ b :: rest) =
      .ok (.number (.integer i), b :: rest) := by
  simp only [number, numberText_decimal negative n hb, NumberText.value,
    integer?_decimal i hi hzero, Except.map]

theorem start_of_scalar {s t : List UInt8} {b : UInt8} (hs : skipSpace s = b :: t)
    (harray : b ≠ Ascii.openBracket) (hobject : b ≠ Ascii.openBrace) :
    start s = (scalar b t).map fun (x, r) => (.scalar x, r) := by
  unfold start
  rw [hs]
  split
  · next h => cases h
  · next h => exact absurd (List.cons.inj h).1 harray
  · next h => exact absurd (List.cons.inj h).1 hobject
  · next h =>
    cases h
    rfl

theorem digitByte_start : ∀ d < 10, isSpace (digitByte d) = false ∧ digitByte d ≠ Ascii.openBracket ∧
    digitByte d ≠ Ascii.openBrace ∧ digitByte d ≠ Ascii.quote ∧ digitByte d ≠ Ascii.minus := by
  decide

theorem start_decimal {n : Nat} (i : Integer) (hi : i.val = n) {b : UInt8} (hb : EndsValue b)
    (rest : List UInt8) :
    start ((decimal n).map digitByte ++ b :: rest) =
      .ok (.scalar (.number (.integer i)), b :: rest) := by
  have hread := number_decimal false n i (by simpa using hi) (by simp) hb rest
  obtain ⟨d, ds, he, _⟩ := decimal_head n
  have hd : d < 10 := decimal_lt_ten n d (by simp [he])
  obtain ⟨hspace, harray, hobject, hquote, hminus⟩ := digitByte_start d hd
  rw [he, List.map_cons, List.cons_append] at hread ⊢
  have hdigit : (Ascii.digit? (digitByte d)).isSome = true := by rw [digit?_digitByte d hd]; rfl
  have hskip (r : List UInt8) : skipSpace (digitByte d :: r) = digitByte d :: r :=
    List.dropWhile_cons_of_neg (by simp [hspace])
  rw [start_of_scalar (hskip _) harray hobject, scalar, if_neg hquote, if_neg hminus,
    if_pos hdigit, hread]
  rfl

theorem print_integer (i : Integer) :
    (∃ n : Nat, i.val = n ∧ (Number.integer i).print = (decimal n).map digitByte) ∨
      ∃ n : Nat, 0 < n ∧ i.val = -n ∧
        (Number.integer i).print = Ascii.minus :: (decimal n).map digitByte := by
  have hprint : (Number.integer i).print = Utf8.encode (toString i.val) := rfl
  cases hi : i.val with
  | ofNat n =>
    have htext : toString (Int.ofNat n) = toString n := rfl
    exact Or.inl ⟨n, rfl, by rw [hprint, hi, htext, encode_toString]⟩
  | negSucc m =>
    have htext : toString (Int.negSucc m) = "-" ++ toString (m + 1) := rfl
    have hminus : Utf8.encode "-" = [Ascii.minus] := by decide +kernel
    refine Or.inr ⟨m + 1, by omega, rfl, ?_⟩
    rw [hprint, hi, htext, Utf8.encode_append, hminus, encode_toString]
    rfl

theorem start_integer (i : Integer) {b : UInt8} (hb : EndsValue b) (rest : List UInt8) :
    start ((Number.integer i).print ++ b :: rest) =
      .ok (.scalar (.number (.integer i)), b :: rest) := by
  rcases print_integer i with ⟨n, hi, hprint⟩ | ⟨n, hn, hi, hprint⟩
  · rw [hprint]
    exact start_decimal i hi hb rest
  · have hskip (r : List UInt8) : skipSpace (Ascii.minus :: r) = Ascii.minus :: r := rfl
    have hread := number_decimal true n i (by rw [hi]; rfl) (by simp; omega) hb rest
    have hscalar (r : List UInt8) : scalar Ascii.minus r = number true r := rfl
    rw [hprint, List.cons_append, start_of_scalar (hskip _) (by decide) (by decide), hscalar,
      hread]
    rfl

end BearerCheck.Json
