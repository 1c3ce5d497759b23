import BearerCheck.Proofs.Json.Grammar

namespace BearerCheck.Json

open Text

def EndsNumber (r : List UInt8) : Prop :=
  ∀ b ∈ r.head?, Ascii.digit? b = none ∧ b ≠ Ascii.dot ∧ b ≠ 0x65 ∧ b ≠ 0x45

theorem endsNumber_nil : EndsNumber [] := by simp [EndsNumber]

section Parts

variable {t r : List UInt8}

theorem digits_append (ht : ∀ b ∈ t, (Ascii.digit? b).isSome = true)
    (hr : ∀ b ∈ r.head?, Ascii.digit? b = none) :
    digits (t ++ r) = (t.filterMap Ascii.digit?, r) := by
  induction t with
  | nil =>
    cases r with
    | nil => rfl
    | cons b r =>
      have hb : Ascii.digit? b = none := hr b rfl
      simp [digits, hb]
  | cons b t ih =>
    obtain ⟨d, hd⟩ := Option.isSome_iff_exists.mp (ht b List.mem_cons_self)
    have hrest := ih fun c hc => ht c (List.mem_cons_of_mem _ hc)
    simp [digits, hd, hrest]

theorem someDigits_append (ht : Digits t) (hr : ∀ b ∈ r.head?, Ascii.digit? b = none) :
    someDigits (t ++ r) = .ok (t.filterMap Ascii.digit?, r) := by
  obtain ⟨hne, hdigits⟩ := ht
  rw [someDigits, digits_append hdigits hr]
  cases t with
  | nil => exact absurd rfl hne
  | cons b t =>
    obtain ⟨d, hd⟩ := Option.isSome_iff_exists.mp (hdigits b List.mem_cons_self)
    rw [List.filterMap_cons_some hd]

theorem eq_zero_of_digit? {b : UInt8} (h : Ascii.digit? b = some 0) : b = Ascii.zero := by
  unfold Ascii.digit? at h
  split_ifs at h with hb
  have hsub : (b - 0x30).toNat = 0 := Option.some.inj h
  rw [UInt8.toNat_sub_of_le _ _ hb.1] at hsub
  have hle : (0x30 : UInt8).toNat ≤ b.toNat := UInt8.le_iff_toNat_le.mp hb.1
  apply UInt8.toNat_inj.mp
  exact Nat.le_antisymm (Nat.sub_eq_zero_iff_le.mp hsub) hle

theorem wholePart_append (ht : WholeDigits t) (hr : ∀ b ∈ r.head?, Ascii.digit? b = none) :
    wholePart (t ++ r) = .ok (t.filterMap Ascii.digit?, r) := by
  obtain ⟨hdigits, hzero⟩ := ht
  rw [wholePart, someDigits_append hdigits hr]
  split
  · next h =>
    -- a zero in front of other digits is no whole part
    cases t with
    | nil => cases h
    | cons b t =>
      obtain ⟨d, hd⟩ := Option.isSome_iff_exists.mp (hdigits.2 b List.mem_cons_self)
      rw [List.filterMap_cons_some hd] at h
      simp only [Except.ok.injEq, Prod.mk.injEq, List.cons.injEq] at h
      obtain ⟨⟨rfl, ht⟩, _⟩ := h
      obtain ⟨_, rfl⟩ := List.cons.inj (hzero (congrArg some (eq_zero_of_digit? hd)))
      cases ht
  · rfl

theorem fractionPart_append (ht : FractionText t) :
    ∃ ds, ∀ r : List UInt8, (∀ b ∈ r.head?, Ascii.digit? b = none ∧ b ≠ Ascii.dot) →
      fractionPart (t ++ r) = .ok (ds, r) := by
  rcases ht with rfl | ⟨ds, hds, rfl⟩
  · refine ⟨[], fun r hr => ?_⟩
    rw [List.nil_append, fractionPart]
    rintro s rfl
    exact (hr Ascii.dot rfl).2 rfl
  · exact ⟨_, fun r hr => someDigits_append hds fun b hb => (hr b hb).1⟩

theorem exponentSign_append {sign : List UInt8}
    (hsign : sign = [] ∨ sign = [Ascii.plus] ∨ sign = [Ascii.minus]) (ht : Digits t) :
    ∃ negative, ∀ r, exponentSign (sign ++ (t ++ r)) = (negative, t ++ r) := by
  rcases hsign with rfl | rfl | rfl
  · obtain ⟨hne, hdigits⟩ := ht
    cases t with
    | nil => exact absurd rfl hne
    | cons b t =>
      have hb := hdigits b List.mem_cons_self
      refine ⟨false, fun r => ?_⟩
      unfold exponentSign
      split
      · next h =>
        cases (List.cons.inj h).1
        cases hb
      · next h =>
        cases (List.cons.inj h).1
        cases hb
      · rfl
  · exact ⟨false, fun r => rfl⟩
  · exact ⟨true, fun r => rfl⟩

theorem exponentPart_append (ht : ExponentText t) :
    ∃ x, ∀ r, EndsNumber r → exponentPart (t ++ r) = .ok (x, r) := by
  rcases ht with rfl | ⟨mark, sign, ds, hmark, hsign, hds, rfl⟩
  · refine ⟨(false, []), fun r hr => ?_⟩
    cases r with
    | nil => rfl
    | cons b r =>
      obtain ⟨_, _, he, hE⟩ := hr b rfl
      rw [List.nil_append, exponentPart, if_neg (not_or.mpr ⟨he, hE⟩)]
  · obtain ⟨negative, hs⟩ := exponentSign_append hsign hds
    refine ⟨(negative, ds.filterMap Ascii.digit?), fun r hr => ?_⟩
    rw [List.cons_append, List.append_assoc, exponentPart, if_pos hmark, hs]
    dsimp only
    rw [someDigits_append hds fun b hb => (hr b hb).1]
    rfl

theorem exponentText_head (ht : ExponentText t) (hr : EndsNumber r) :
    ∀ b ∈ (t ++ r).head?, Ascii.digit? b = none ∧ b ≠ Ascii.dot := by
  rcases ht with rfl | ⟨mark, sign, ds, hmark, _, _, rfl⟩
  · intro b hb
    exact ⟨(hr b hb).1, (hr b hb).2.1⟩
  · intro b hb
    cases hb
    rcases hmark with rfl | rfl <;> exact ⟨rfl, by decide⟩

theorem fractionText_head {u : List UInt8} (ht : FractionText t) (hu : ExponentText u)
    (hr : EndsNumber r) : ∀ b ∈ (t ++ (u ++ r)).head?, Ascii.digit? b = none := by
  rcases ht with rfl | ⟨ds, _, rfl⟩
  · intro b hb
    exact (exponentText_head hu hr b hb).1
  · intro b hb
    cases hb
    rfl

end Parts

theorem numberText_append {t : List UInt8} (ht : UnsignedText t) (negative : Bool) :
    ∃ x, ∀ r, EndsNumber r → numberText negative (t ++ r) = .ok (x, r) := by
  obtain ⟨whole, fraction, exponent, hw, hf, he, rfl⟩ := ht
  obtain ⟨fs, hfs⟩ := fractionPart_append hf
  obtain ⟨es, hes⟩ := exponentPart_append he
  refine ⟨⟨negative, whole.filterMap Ascii.digit?, fs, es.1, es.2⟩, fun r hr => ?_⟩
  have hfraction := hfs (exponent ++ r) (exponentText_head he hr)
  have hexponent := hes r hr
  rw [List.append_assoc, List.append_assoc, numberText,
    wholePart_append hw (fractionText_head hf he hr)]
  simp only [bind, Except.bind, hfraction, hexponent]

section Range

def Scales (x : Float) (e : Int) : Prop :=
  e < 0 ∨ if e ≤ greatestPower then (x * powerOfTen e.toNat).isInf = false else (x == 0) = true

theorem scale_cases (x : Float) (e : Int) :
    (Scales x e ∧ ∃ y, scale x e = .ok y) ∨ (¬ Scales x e ∧ scale x e = .error .numberRange) := by
  unfold Scales scale
  by_cases hsign : 0 ≤ e
  · have hneg : ¬ e < 0 := by omega
    rw [if_pos hsign, scaleUp]
    by_cases hpower : e ≤ greatestPower
    · have hpower' : e.toNat ≤ greatestPower := by omega
      simp only [hneg, hpower, hpower', ↓reduceIte, false_or]
      cases hinf : (x * powerOfTen e.toNat).isInf <;> simp
    · have hpower' : ¬ e.toNat ≤ greatestPower := by omega
      simp only [hneg, hpower, hpower', ↓reduceIte, false_or]
      cases hzero : x == 0 <;> simp
  · have hneg : e < 0 := by omega
    simp [hsign, hneg]

namespace NumberText

/-- The number that the leading digits write, as many as fit 64 bits, and the power of ten that it
is to be multiplied by. -/
def leading (x : NumberText) : Nat × Int :=
  let (n, dropped) := appendDigits 0 x.whole
  let (n, unused) := appendDigits n x.fraction
  (n, x.exponentValue + dropped.length - (x.fraction.length - unused.length : Nat))

def InRange (x : NumberText) : Prop :=
  x.integer? ≠ none ∨ Scales (Float.ofNat x.leading.1) x.leading.2

theorem real_eq (x : NumberText) :
    x.real = (scale (Float.ofNat x.leading.1) x.leading.2).map (withSign x.negative) := by
  unfold real leading
  dsimp only
  cases scale _ _ <;> rfl

theorem value_cases (x : NumberText) :
    (x.InRange ∧ ∃ n, x.value = .ok n) ∨ (¬ x.InRange ∧ x.value = .error .numberRange) := by
  unfold InRange value
  cases hinteger : x.integer? with
  | some i => exact Or.inl ⟨Or.inl nofun, _, rfl⟩
  | none =>
    simp only [ne_eq, not_true_eq_false, false_or, real_eq]
    rcases scale_cases (Float.ofNat x.leading.1) x.leading.2 with ⟨hscales, y, hy⟩ | ⟨hscales, hy⟩
    · exact Or.inl ⟨hscales, _, by rw [hy]; rfl⟩
    · exact Or.inr ⟨hscales, by rw [hy]; rfl⟩

end NumberText

def NumberIs (negative : Bool) (t : List UInt8) (n : Number) : Prop :=
  UnsignedText t ∧ ∃ x, numberText negative t = .ok (x, []) ∧ x.value = .ok n

theorem number_of_numberIs {negative : Bool} {t r : List UInt8} {n : Number}
    (h : NumberIs negative t n) (hr : EndsNumber r) :
    number negative (t ++ r) = .ok (.number n, r) := by
  obtain ⟨ht, x, hx, hvalue⟩ := h
  obtain ⟨y, hy⟩ := numberText_append ht negative
  have hnil := hy [] endsNumber_nil
  rw [List.append_nil, hx] at hnil
  cases hnil
  unfold number
  rw [hy r hr]
  simp only [hvalue, Except.map]

theorem number_append {t r : List UInt8} (ht : UnsignedText t) (negative : Bool)
    (hr : EndsNumber r) :
    (∃ n, NumberIs negative t n) ∨ number negative (t ++ r) = .error .numberRange := by
  obtain ⟨x, hx⟩ := numberText_append ht negative
  have hnil := hx [] endsNumber_nil
  rw [List.append_nil] at hnil
  rcases x.value_cases with ⟨_, n, hn⟩ | ⟨_, hn⟩
  · exact Or.inl ⟨n, ht, x, hnil, hn⟩
  · right
    unfold number
    rw [hx r hr]
    simp only [hn, Except.map]

end Range

end BearerCheck.Json
