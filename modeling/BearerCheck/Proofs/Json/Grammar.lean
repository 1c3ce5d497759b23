import BearerCheck.Json.Skim
import BearerCheck.Proofs.Outcome
import Mathlib.Data.List.DropRight
import Mathlib.Tactic.SplitIfs

/-!
The grammar of JSON. A phrase reaches from a text that starts with it to what is left of the text
behind it, and blanks may stand before every value and every mark. Numbers may have any size and
values be nested to any depth; what stands in a string beyond ASCII is taken as it comes.

Whatever is read or skimmed as a string, a number or a word is one.
-/

namespace BearerCheck.Json

open Text

def Digits (t : List UInt8) : Prop := t ≠ [] ∧ ∀ b ∈ t, (Ascii.digit? b).isSome = true

def WholeDigits (t : List UInt8) : Prop :=
  Digits t ∧ (t.head? = some Ascii.zero → t = [Ascii.zero])

def FractionText (t : List UInt8) : Prop := t = [] ∨ ∃ ds, Digits ds ∧ t = Ascii.dot :: ds

def ExponentText (t : List UInt8) : Prop :=
  t = [] ∨ ∃ mark sign ds, (mark = 0x65 ∨ mark = 0x45) ∧
    (sign = [] ∨ sign = [Ascii.plus] ∨ sign = [Ascii.minus]) ∧ Digits ds ∧ t = mark :: (sign ++ ds)

def UnsignedText (t : List UInt8) : Prop :=
  ∃ whole fraction exponent, WholeDigits whole ∧ FractionText fraction ∧ ExponentText exponent ∧
    t = whole ++ fraction ++ exponent

inductive StringAt : List UInt8 → List UInt8 → Prop
  | close (r : List UInt8) : StringAt (Ascii.quote :: r) r
  | plain {b : UInt8} {s r : List UInt8} : b ≠ Ascii.quote → b ≠ Ascii.backslash → 0x20 ≤ b →
      StringAt s r → StringAt (b :: s) r
  | escape {b : UInt8} {s r : List UInt8} : (escapedByte? b).isSome = true → StringAt s r →
      StringAt (Ascii.backslash :: b :: s) r
  | unit {ds s r : List UInt8} : ds.length = 4 → (∀ d ∈ ds, (Ascii.hexDigit? d).isSome = true) →
      StringAt s r → StringAt (Ascii.backslash :: 0x75 :: (ds ++ s)) r

inductive ScalarAt : List UInt8 → List UInt8 → Prop
  | null (r : List UInt8) : ScalarAt ([0x6E, 0x75, 0x6C, 0x6C] ++ r) r
  | true (r : List UInt8) : ScalarAt ([0x74, 0x72, 0x75, 0x65] ++ r) r
  | false (r : List UInt8) : ScalarAt ([0x66, 0x61, 0x6C, 0x73, 0x65] ++ r) r
  | unsigned {t : List UInt8} (r : List UInt8) : UnsignedText t → ScalarAt (t ++ r) r
  | negative {t : List UInt8} (r : List UInt8) : UnsignedText t →
      ScalarAt (Ascii.minus :: (t ++ r)) r
  | string {s r : List UInt8} : StringAt s r → ScalarAt (Ascii.quote :: s) r

def Separated (first : Bool) (s t : List UInt8) : Prop :=
  if first then t = s else skipSpace s = Ascii.comma :: t

def NameAt (s r : List UInt8) : Prop :=
  ∃ t u, skipSpace s = Ascii.quote :: t ∧ StringAt t u ∧ skipSpace u = Ascii.colon :: r

mutual

inductive ValueAt : List UInt8 → List UInt8 → Prop
  | scalar {s r : List UInt8} : ScalarAt (skipSpace s) r → ValueAt s r
  | array {s t r : List UInt8} : skipSpace s = Ascii.openBracket :: t → ElementsAt true t r →
      ValueAt s r
  | object {s t r : List UInt8} : skipSpace s = Ascii.openBrace :: t → MembersAt true t r →
      ValueAt s r

inductive ElementsAt : Bool → List UInt8 → List UInt8 → Prop
  | close {first : Bool} {s r : List UInt8} : skipSpace s = Ascii.closeBracket :: r →
      ElementsAt first s r
  | next {first : Bool} {s t u r : List UInt8} : Separated first s t → ValueAt t u →
      ElementsAt false u r → ElementsAt first s r

inductive MembersAt : Bool → List UInt8 → List UInt8 → Prop
  | close {first : Bool} {s r : List UInt8} : skipSpace s = Ascii.closeBrace :: r →
      MembersAt first s r
  | next {first : Bool} {s t u v r : List UInt8} : Separated first s t → NameAt t u →
      ValueAt u v → MembersAt false v r → MembersAt first s r

end

def IsArray (bs : List UInt8) : Prop :=
  ∃ t r, skipSpace bs = Ascii.openBracket :: t ∧ ElementsAt true t r ∧ skipSpace r = []

def IsObject (bs : List UInt8) : Prop :=
  ∃ t r, skipSpace bs = Ascii.openBrace :: t ∧ MembersAt true t r ∧ skipSpace r = []

theorem skipSpace_skipSpace (s : List UInt8) : skipSpace (skipSpace s) = skipSpace s :=
  List.dropWhile_idempotent _ _

theorem valueAt_skipSpace {s r : List UInt8} : ValueAt (skipSpace s) r ↔ ValueAt s r := by
  constructor
  · intro h
    cases h with
    | scalar h => exact .scalar (skipSpace_skipSpace s ▸ h)
    | array h h' => exact .array (skipSpace_skipSpace s ▸ h) h'
    | object h h' => exact .object (skipSpace_skipSpace s ▸ h) h'
  · intro h
    cases h with
    | scalar h => exact .scalar ((skipSpace_skipSpace s).symm ▸ h)
    | array h h' => exact .array ((skipSpace_skipSpace s).trans h) h'
    | object h h' => exact .object ((skipSpace_skipSpace s).trans h) h'

theorem nameAt_skipSpace {s r : List UInt8} : NameAt (skipSpace s) r ↔ NameAt s r := by
  simp only [NameAt, skipSpace_skipSpace]

section Numbers

variable {s r : List UInt8} {ds : List Nat}

theorem digits_split (h : digits s = (ds, r)) :
    ∃ t, s = t ++ r ∧ t.map Ascii.digit? = ds.map some := by
  induction s generalizing ds with
  | nil =>
    cases h
    exact ⟨[], rfl, rfl⟩
  | cons b s ih =>
    unfold digits at h
    split at h
    · next d hd =>
      cases h
      obtain ⟨t, hs, ht⟩ := ih rfl
      exact ⟨b :: t, congrArg _ hs, by simp [hd, ht]⟩
    · cases h
      exact ⟨[], rfl, rfl⟩

theorem someDigits_split (h : someDigits s = .ok (ds, r)) :
    ∃ t, s = t ++ r ∧ t.map Ascii.digit? = ds.map some ∧ Digits t := by
  unfold someDigits at h
  split at h
  · cases h
  · next hne hd =>
    cases h
    obtain ⟨t, hs, ht⟩ := digits_split hd
    refine ⟨t, hs, ht, ?_, fun b hb => ?_⟩
    · rintro rfl
      exact hne (List.map_eq_nil_iff.mp ht.symm)
    · have hmem : Ascii.digit? b ∈ ds.map some := ht ▸ List.mem_map_of_mem hb
      obtain ⟨d, _, hd⟩ := List.mem_map.mp hmem
      exact hd ▸ rfl

theorem wholePart_split (h : wholePart s = .ok (ds, r)) : ∃ t, s = t ++ r ∧ WholeDigits t := by
  unfold wholePart at h
  split at h
  · cases h
  · next hzero =>
    obtain ⟨t, hs, ht, hdigits⟩ := someDigits_split h
    refine ⟨t, hs, hdigits, fun hhead => ?_⟩
    obtain ⟨t, rfl⟩ := List.head?_eq_some_iff.mp hhead
    -- the digits are zero and those of `t`, and a zero in front of others is refused
    have hdigit : Ascii.digit? Ascii.zero = some 0 := rfl
    cases ds with
    | nil => cases ht
    | cons d ds =>
      rw [List.map_cons, List.map_cons, hdigit, List.cons.injEq, Option.some.injEq] at ht
      obtain ⟨rfl, ht⟩ := ht
      cases ds with
      | nil => rw [List.map_eq_nil_iff.mp ht]
      | cons d ds => exact absurd h (hzero d ds r)

theorem fractionPart_split (h : fractionPart s = .ok (ds, r)) : ∃ t, s = t ++ r ∧ FractionText t := by
  unfold fractionPart at h
  split at h
  · obtain ⟨t, rfl, _, hdigits⟩ := someDigits_split h
    exact ⟨Ascii.dot :: t, rfl, Or.inr ⟨t, hdigits, rfl⟩⟩
  · cases h
    exact ⟨[], rfl, Or.inl rfl⟩

theorem exponentSign_split (s : List UInt8) : ∃ sign, s = sign ++ (exponentSign s).2 ∧
    (sign = [] ∨ sign = [Ascii.plus] ∨ sign = [Ascii.minus]) := by
  unfold exponentSign
  split
  · exact ⟨[Ascii.minus], rfl, Or.inr (Or.inr rfl)⟩
  · exact ⟨[Ascii.plus], rfl, Or.inr (Or.inl rfl)⟩
  · exact ⟨[], rfl, Or.inl rfl⟩

theorem exponentPart_split {x : Bool × List Nat} (h : exponentPart s = .ok (x, r)) :
    ∃ t, s = t ++ r ∧ ExponentText t := by
  unfold exponentPart at h
  split at h
  · cases h
    exact ⟨[], rfl, Or.inl rfl⟩
  · next b s =>
    split_ifs at h with hmark
    · obtain ⟨sign, hs, hsign⟩ := exponentSign_split s
      obtain ⟨⟨ds, u⟩, hds, h⟩ := bind_eq_ok.mp h
      cases h
      obtain ⟨t, ht, _, hdigits⟩ := someDigits_split hds
      refine ⟨b :: (sign ++ t), ?_, Or.inr ⟨b, sign, t, hmark, hsign, hdigits, rfl⟩⟩
      rw [List.cons_append, List.append_assoc, ← ht]
      exact congrArg _ hs
    · cases h
      exact ⟨[], rfl, Or.inl rfl⟩

theorem numberText_split {negative : Bool} {x : NumberText} (h : numberText negative s = .ok (x, r)) :
    ∃ t, s = t ++ r ∧ UnsignedText t := by
  obtain ⟨⟨_, u⟩, hwhole, h⟩ := bind_eq_ok.mp h
  obtain ⟨⟨_, v⟩, hfraction, h⟩ := bind_eq_ok.mp h
  obtain ⟨⟨_, w⟩, hexponent, h⟩ := bind_eq_ok.mp h
  cases h
  obtain ⟨whole, rfl, hw⟩ := wholePart_split hwhole
  obtain ⟨fraction, rfl, hf⟩ := fractionPart_split hfraction
  obtain ⟨exponent, rfl, he⟩ := exponentPart_split hexponent
  exact ⟨whole ++ fraction ++ exponent, by simp only [List.append_assoc],
    whole, fraction, exponent, hw, hf, he, rfl⟩

end Numbers

section Strings

def SkimState.pending : SkimState → List UInt8
  | .plain => []
  | .escape => [Ascii.backslash]
  | .unit ds => Ascii.backslash :: 0x75 :: ds.reverse

def SkimState.Short : SkimState → Prop
  | .unit ds => ds.length ≤ 3
  | _ => True

theorem hexValue?_isSome {ds : List UInt8} (h : (hexValue? ds).isSome = true) :
    ∀ d ∈ ds, (Ascii.hexDigit? d).isSome = true := by
  induction ds with
  | nil => simp
  | cons d ds ih =>
    obtain ⟨n, hn⟩ := Option.isSome_iff_exists.mp h
    simp only [hexValue?, bind, Option.bind_eq_some_iff] at hn
    obtain ⟨m, hm, k, hk, _⟩ := hn
    intro c hc
    rcases List.mem_cons.mp hc with rfl | hc
    · exact hk ▸ rfl
    · exact ih (hm ▸ rfl) c hc

theorem skimString_sound (s : List UInt8) : ∀ (state : SkimState) (r : List UInt8), state.Short →
    skimString state s = .ok r → StringAt (state.pending ++ s) r := by
  induction s with
  | nil => intro state r _ h; cases state <;> cases h
  | cons b s ih =>
    intro state r hshort h
    cases state with
    | plain =>
      unfold skimString at h
      split_ifs at h with hquote hback hcontrol
      · cases h
        exact hquote ▸ .close _
      · exact hback ▸ ih .escape r trivial h
      · exact .plain hquote hback (by simpa using hcontrol) (ih .plain r trivial h)
    | escape =>
      unfold skimString at h
      split_ifs at h with hescaped hunit
      · exact .escape hescaped (ih .plain r trivial h)
      · exact hunit ▸ ih (.unit []) r (Nat.zero_le _) h
    | unit ds =>
      have hpending : (SkimState.unit ds).pending ++ b :: s =
          Ascii.backslash :: 0x75 :: ((b :: ds).reverse ++ s) := by
        simp [SkimState.pending]
      rw [hpending]
      unfold skimString at h
      split_ifs at h with hlength hhex
      · exact ih (.unit (b :: ds)) r hlength h
      · have hds : ds.length ≤ 3 := hshort
        refine .unit ?_ (fun d hd => ?_) (ih .plain r trivial h)
        · simp
          omega
        · exact hexValue?_isSome hhex d (List.mem_reverse.mp hd)

def StringState.skim : StringState → SkimState
  | .plain => .plain
  | .escape => .escape
  | .unit _ ds => .unit ds
  | .lead _ => .plain
  | .leadEscape _ => .escape

theorem unit_skim {lead : Option Nat} {n : Nat} {bs : List UInt8} {state : StringState}
    (h : unit lead n = .ok (bs, state)) : state.skim = .plain := by
  unfold unit at h
  split at h <;> split_ifs at h <;>
    · simp only [Except.ok.injEq, Prod.mk.injEq] at h
      exact h.2 ▸ rfl

theorem skimString_unit (s : List UInt8) :
    skimString .escape (0x75 :: s) = skimString (.unit []) s := rfl

theorem stringBytes_step {state : StringState} {b : UInt8} {s bs r : List UInt8}
    (h : stringBytes state (b :: s) = .ok (bs, r)) :
    skimString state.skim (b :: s) = .ok r ∨
      ∃ state' bs', stringBytes state' s = .ok (bs', r) ∧
        skimString state.skim (b :: s) = skimString state'.skim s := by
  cases state with
  | plain =>
    unfold stringBytes at h
    split_ifs at h with hquote hback hcontrol
    · cases h
      left
      simp [StringState.skim, skimString, hquote]
    · refine Or.inr ⟨.escape, bs, h, ?_⟩
      simp only [StringState.skim, skimString, if_neg hquote, if_pos hback]
    · obtain ⟨⟨cs, u⟩, hcs, h⟩ := map_eq_ok.mp h
      cases h
      refine Or.inr ⟨.plain, cs, hcs, ?_⟩
      simp only [StringState.skim, skimString, if_neg hquote, if_neg hback, if_neg hcontrol]
  | escape =>
    unfold stringBytes at h
    split at h
    · next c hc =>
      obtain ⟨⟨cs, u⟩, hcs, h⟩ := map_eq_ok.mp h
      cases h
      refine Or.inr ⟨.plain, cs, hcs, ?_⟩
      simp only [StringState.skim, skimString, hc, Option.isSome_some, ↓reduceIte]
    · split_ifs at h with hunit
      exact Or.inr ⟨.unit none [], bs, h, hunit ▸ skimString_unit s⟩
  | unit lead ds =>
    unfold stringBytes at h
    rw [StringState.skim, skimString]
    split_ifs at h with hlength
    · refine Or.inr ⟨.unit lead (b :: ds), bs, h, ?_⟩
      rw [if_pos hlength, StringState.skim]
    · rw [if_neg hlength]
      split at h
      · cases h
      · next n hn =>
        split at h
        · cases h
        · next cs state hunit =>
          obtain ⟨⟨cs', u⟩, hcs, h⟩ := map_eq_ok.mp h
          cases h
          refine Or.inr ⟨state, cs', hcs, ?_⟩
          rw [hn, if_pos (by simp), unit_skim hunit]
  | lead n =>
    unfold stringBytes at h
    split_ifs at h with hback
    have hquote : b ≠ Ascii.quote := hback ▸ by decide
    refine Or.inr ⟨.leadEscape n, bs, h, ?_⟩
    simp only [StringState.skim, skimString, if_neg hquote, if_pos hback]
  | leadEscape n =>
    unfold stringBytes at h
    split_ifs at h with hunit
    exact Or.inr ⟨.unit (some n) [], bs, h, hunit ▸ skimString_unit s⟩

theorem skimString_of_stringBytes {s : List UInt8} {state : StringState} {bs r : List UInt8}
    (h : stringBytes state s = .ok (bs, r)) : skimString state.skim s = .ok r := by
  induction s generalizing state bs with
  | nil => cases state <;> cases h
  | cons b s ih =>
    rcases stringBytes_step h with hend | ⟨state', bs', h', hsame⟩
    · exact hend
    · rw [hsame]
      exact ih h'

theorem stringText_sound {s r : List UInt8} {t : String} (h : stringText s = .ok (t, r)) :
    StringAt s r := by
  obtain ⟨⟨bs, u⟩, hbs, h⟩ := bind_eq_ok.mp h
  have hskim := skimString_of_stringBytes hbs
  cases hd : Utf8.decode bs with
  | none => simp [hd] at h
  | some t' =>
    simp only [hd] at h
    cases h
    exact skimString_sound s .plain _ trivial hskim

end Strings

theorem afterColon_eq_ok {s r : List UInt8} :
    afterColon s = .ok r ↔ skipSpace s = Ascii.colon :: r := by
  unfold afterColon
  cases skipSpace s with
  | nil => simp
  | cons b t =>
    by_cases hb : b = Ascii.colon <;> simp [hb]

section Scalars

variable {s r : List UInt8} {x : Scalar}

theorem word_split {y : Scalar} {w : List UInt8} (h : word y w s = .ok (x, r)) : s = w ++ r := by
  induction w generalizing s with
  | nil =>
    cases h
    rfl
  | cons b w ih =>
    cases s with
    | nil => cases h
    | cons c s =>
      unfold word at h
      split_ifs at h with hc
      rw [hc, ih h, List.cons_append]

theorem number_split {negative : Bool} (h : number negative s = .ok (x, r)) :
    ∃ t, s = t ++ r ∧ UnsignedText t := by
  unfold number at h
  split at h
  · cases h
  · cases h
  · next t u ht =>
    obtain ⟨n, _, h⟩ := map_eq_ok.mp h
    cases h
    exact numberText_split ht

theorem scalar_sound {b : UInt8} (h : scalar b s = .ok (x, r)) : ScalarAt (b :: s) r := by
  unfold scalar at h
  split_ifs at h with hquote hminus hdigit hn ht hf
  · obtain ⟨⟨t, u⟩, hu, h⟩ := map_eq_ok.mp h
    cases h
    exact hquote ▸ .string (stringText_sound hu)
  · obtain ⟨t, rfl, ht⟩ := number_split h
    exact hminus ▸ .negative r ht
  · obtain ⟨t, he, ht⟩ := number_split h
    exact he ▸ .unsigned r ht
  · rw [hn, word_split h]
    exact .null r
  · rw [ht, word_split h]
    exact .true r
  · rw [hf, word_split h]
    exact .false r

theorem skimNumber_split (h : skimNumber s = .ok r) : ∃ t, s = t ++ r ∧ UnsignedText t := by
  unfold skimNumber at h
  split at h
  · cases h
  · next ht =>
    cases h
    exact numberText_split ht

theorem skimScalar_sound {b : UInt8} (h : skimScalar b s = .ok r) : ScalarAt (b :: s) r := by
  unfold skimScalar at h
  split_ifs at h with hquote hminus hdigit
  · exact hquote ▸ .string (skimString_sound s .plain r trivial h)
  · obtain ⟨t, rfl, ht⟩ := skimNumber_split h
    exact hminus ▸ .negative r ht
  · obtain ⟨t, he, ht⟩ := skimNumber_split h
    exact he ▸ .unsigned r ht
  · obtain ⟨⟨x, u⟩, hx, h⟩ := map_eq_ok.mp h
    cases h
    exact scalar_sound hx

theorem skimName_sound (h : skimName s = .ok r) : NameAt s r := by
  unfold skimName at h
  split at h
  · cases h
  · next t ht =>
    obtain ⟨u, hu, h⟩ := bind_eq_ok.mp h
    exact ⟨t, u, ht, skimString_sound t .plain u trivial hu, afterColon_eq_ok.mp h⟩
  · cases h

end Scalars

section Extent

variable {first : Bool} {s r : List UInt8}

theorem unsignedText_cons {t : List UInt8} (h : UnsignedText t) :
    ∃ b u, t = b :: u ∧ (Ascii.digit? b).isSome = true := by
  obtain ⟨whole, fraction, exponent, ⟨⟨hne, hdigits⟩, _⟩, _, _, rfl⟩ := h
  cases whole with
  | nil => exact absurd rfl hne
  | cons b whole => exact ⟨b, _, rfl, hdigits b List.mem_cons_self⟩

theorem length_skipSpace_le (s : List UInt8) : (skipSpace s).length ≤ s.length :=
  (List.dropWhile_sublist isSpace).length_le

theorem length_lt_of_skipSpace {b : UInt8} (h : skipSpace s = b :: r) : r.length < s.length := by
  have hs := length_skipSpace_le s
  rw [h, List.length_cons] at hs
  omega

theorem StringAt.length_lt (h : StringAt s r) : r.length < s.length := by
  induction h with
  | close r => exact Nat.lt_succ_self _
  | plain _ _ _ _ ih =>
    rw [List.length_cons]
    omega
  | escape _ _ ih =>
    simp only [List.length_cons]
    omega
  | unit _ _ _ ih =>
    simp only [List.length_cons, List.length_append]
    omega

theorem ScalarAt.length_lt (h : ScalarAt s r) : r.length < s.length := by
  cases h with
  | null =>
    simp only [List.length_cons, List.length_append]
    omega
  | true =>
    simp only [List.length_cons, List.length_append]
    omega
  | false =>
    simp only [List.length_cons, List.length_append]
    omega
  | unsigned _ h =>
    obtain ⟨b, u, rfl, _⟩ := unsignedText_cons h
    simp only [List.length_cons, List.length_append]
    omega
  | negative _ _ =>
    simp only [List.length_cons, List.length_append]
    omega
  | string h =>
    have := h.length_lt
    rw [List.length_cons]
    omega

theorem Separated.length_le {t : List UInt8} (h : Separated first s t) : t.length ≤ s.length := by
  cases first with
  | true =>
    have ht : t = s := h
    rw [ht]
  | false =>
    have hs := length_skipSpace_le s
    have ht : skipSpace s = Ascii.comma :: t := h
    rw [ht, List.length_cons] at hs
    omega

theorem NameAt.length_lt (h : NameAt s r) : r.length < s.length := by
  obtain ⟨t, u, ht, hname, hu⟩ := h
  have hs := length_skipSpace_le s
  have hu' := length_skipSpace_le u
  have := hname.length_lt
  rw [ht, List.length_cons] at hs
  rw [hu, List.length_cons] at hu'
  omega

mutual

theorem ValueAt.length_lt {s r : List UInt8} : ValueAt s r → r.length < s.length
  | .scalar h => Nat.lt_of_lt_of_le h.length_lt (length_skipSpace_le s)
  | .array h h' => h'.length_lt.trans (length_lt_of_skipSpace h)
  | .object h h' => h'.length_lt.trans (length_lt_of_skipSpace h)

theorem ElementsAt.length_lt {first : Bool} {s r : List UInt8} :
    ElementsAt first s r → r.length < s.length
  | .close h => length_lt_of_skipSpace h
  | .next hsep h h' => (h'.length_lt.trans h.length_lt).trans_le hsep.length_le

theorem MembersAt.length_lt {first : Bool} {s r : List UInt8} :
    MembersAt first s r → r.length < s.length
  | .close h => length_lt_of_skipSpace h
  | .next hsep hname h h' =>
    ((h'.length_lt.trans h.length_lt).trans hname.length_lt).trans_le hsep.length_le

end

def OpensScalar (b : UInt8) : Prop :=
  b ≠ Ascii.openBracket ∧ b ≠ Ascii.openBrace ∧ b ≠ Ascii.closeBracket

instance (b : UInt8) : Decidable (OpensScalar b) := inferInstanceAs (Decidable (_ ∧ _ ∧ _))

theorem opensScalar_of_digit {b : UInt8} (hb : (Ascii.digit? b).isSome = true) : OpensScalar b := by
  refine ⟨?_, ?_, ?_⟩ <;>
    · rintro rfl
      cases hb

theorem ScalarAt.opens (h : ScalarAt s r) : ∃ b t, s = b :: t ∧ OpensScalar b := by
  cases h with
  | null => exact ⟨_, _, rfl, by decide⟩
  | true => exact ⟨_, _, rfl, by decide⟩
  | false => exact ⟨_, _, rfl, by decide⟩
  | unsigned _ h =>
    obtain ⟨b, u, rfl, hb⟩ := unsignedText_cons h
    exact ⟨b, _, rfl, opensScalar_of_digit hb⟩
  | negative _ _ => exact ⟨_, _, rfl, by decide⟩
  | string _ => exact ⟨_, _, rfl, by decide⟩

theorem ValueAt.opens (h : ValueAt s r) : ∃ b t, skipSpace s = b :: t ∧ b ≠ Ascii.closeBracket := by
  cases h with
  | scalar h =>
    obtain ⟨b, t, ht, hb⟩ := h.opens
    exact ⟨b, t, ht, hb.2.2⟩
  | array h _ => exact ⟨_, _, h, by decide⟩
  | object h _ => exact ⟨_, _, h, by decide⟩

end Extent

end BearerCheck.Json
