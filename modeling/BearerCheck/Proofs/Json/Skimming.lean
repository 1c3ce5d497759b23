import BearerCheck.Proofs.Json.Meaning

namespace BearerCheck.Json

open Text

theorem skimString_complete {s r : List UInt8} (h : StringAt s r) : skimString .plain s = .ok r := by
  induction h with
  | close r => rfl
  | plain hquote hback hb _ ih =>
    rw [skimString, if_neg hquote, if_neg hback, if_neg (by simpa using hb), ih]
  | @escape b s r hb _ ih =>
    have hopen : skimString .plain (Ascii.backslash :: b :: s) = skimString .escape (b :: s) := rfl
    rw [hopen, skimString, if_pos hb, ih]
  | @unit ds s r hlength hdigits _ ih =>
    obtain ⟨n, hn⟩ := hexValue?_of_digits fun d hd => hdigits d (List.mem_reverse.mp hd)
    obtain ⟨a, b, c, d, rfl⟩ := List.length_eq_four.mp hlength
    have hvalue : hexValue? [d, c, b, a] = some n := hn
    have hopen : skimString .plain (Ascii.backslash :: 0x75 :: ([a, b, c, d] ++ s)) =
        skimString (.unit [c, b, a]) (d :: s) := rfl
    rw [hopen, skimString, hvalue]
    exact ih

section Scalars

variable {s t r : List UInt8} {b : UInt8}

theorem skimNumber_append (ht : UnsignedText t) (hr : EndsNumber r) :
    skimNumber (t ++ r) = .ok r := by
  obtain ⟨x, hx⟩ := numberText_append ht false
  rw [skimNumber, hx r hr]

theorem skimScalar_complete (h : ScalarAt (b :: t) r) (hr : EndsNumber r) :
    skimScalar b t = .ok r := by
  generalize hs : b :: t = s at h
  cases h with
  | null =>
    cases hs
    rfl
  | true =>
    cases hs
    rfl
  | false =>
    cases hs
    rfl
  | unsigned _ h =>
    obtain ⟨c, u, rfl, hc⟩ := unsignedText_cons h
    have hquote : c ≠ Ascii.quote := by
      rintro rfl
      cases hc
    have hminus : c ≠ Ascii.minus := by
      rintro rfl
      cases hc
    cases hs
    rw [skimScalar, if_neg hquote, if_neg hminus, if_pos hc]
    exact skimNumber_append h hr
  | negative _ h =>
    cases hs
    exact skimNumber_append h hr
  | string h =>
    cases hs
    exact skimString_complete h

theorem skimName_complete (h : NameAt s r) : skimName s = .ok r := by
  obtain ⟨t, u, ht, hname, hu⟩ := h
  rw [skimName, ht]
  exact bind_eq_ok.mpr ⟨u, skimString_complete hname, afterColon_eq_ok.mpr hu⟩

end Scalars

section Steps

variable {outer : List Bracket} {first : Bool} {s t r : List UInt8} {b : UInt8} (n : Nat)

theorem skimTo_skipSpace (n : Nat) (outer : List Bracket) (s : List UInt8) :
    skimTo n .value outer (skipSpace s) = skimTo n .value outer s := by
  cases n with
  | zero => rfl
  | succ n => rw [skimTo, skimTo, skipSpace_skipSpace]

theorem skimTo_scalar (hs : skipSpace s = b :: t) (hb : OpensScalar b)
    (hread : skimScalar b t = .ok r) :
    skimTo (n + 1) .value outer s = skimTo n .after outer r := by
  rw [skimTo, hs]
  split
  · next h => cases h
  · next h =>
    cases h
    exact absurd rfl hb.1
  · next h =>
    cases h
    exact absurd rfl hb.2.1
  · next h =>
    cases h
    rw [hread]
    rfl

theorem skimTo_openBracket (hs : skipSpace s = Ascii.openBracket :: t) :
    skimTo (n + 1) .value outer s = skimTo n .opened (.array :: outer) t := by
  rw [skimTo, hs]
  rfl

theorem skimTo_openBrace (hs : skipSpace s = Ascii.openBrace :: t) :
    skimTo (n + 1) .value outer s = skimTo n .opened (.object :: outer) t := by
  rw [skimTo, hs]
  rfl

def inside (first : Bool) : Place := if first then .opened else .after

theorem skimTo_closeBracket (hs : skipSpace s = Ascii.closeBracket :: r) :
    skimTo (n + 1) (inside first) (.array :: outer) s = skimTo n .after outer r := by
  cases first <;>
    · simp only [inside, skimTo, hs, ↓reduceIte, Bool.false_eq_true]
      rfl

theorem skimTo_closeBrace (hs : skipSpace s = Ascii.closeBrace :: r) :
    skimTo (n + 1) (inside first) (.object :: outer) s = skimTo n .after outer r := by
  cases first <;>
    · simp only [inside, skimTo, hs, ↓reduceIte, Bool.false_eq_true]
      rfl

theorem skimTo_element (hsep : Separated first s t) (ht : skipSpace t = b :: r)
    (hb : b ≠ Ascii.closeBracket) :
    skimTo (n + 1) (inside first) (.array :: outer) s = skimTo n .value (.array :: outer) t := by
  cases first with
  | true =>
    have hs : t = s := hsep
    rw [← skimTo_skipSpace n _ t, ← hs]
    simp only [inside, skimTo, ht, ↓reduceIte]
    split
    · next h => cases h
    · next h =>
      cases h
      exact absurd rfl hb
    · next h _ => cases h
    · next h _ => cases h
    · next h _ _ => cases h
    · rfl
  | false =>
    have hs : skipSpace s = Ascii.comma :: t := hsep
    simp only [inside, skimTo, hs, Bool.false_eq_true, ↓reduceIte]
    rfl

theorem skimTo_member (hsep : Separated first s t) (hname : NameAt t r) :
    skimTo (n + 1) (inside first) (.object :: outer) s = skimTo n .value (.object :: outer) r := by
  cases first with
  | true =>
    have hs : t = s := hsep
    have hskim : skimName (skipSpace t) = .ok r := skimName_complete (nameAt_skipSpace.mpr hname)
    obtain ⟨u, _, ht, _⟩ := hname
    rw [ht] at hskim
    have hopen : skimTo (n + 1) .opened (.object :: outer) s =
        skimName (Ascii.quote :: u) >>= fun v => skimTo n .value (.object :: outer) v := by
      rw [← hs, skimTo.eq_def]
      dsimp only
      rw [ht]
      rfl
    rw [inside, if_pos rfl, hopen, hskim]
    rfl
  | false =>
    have hs : skipSpace s = Ascii.comma :: t := hsep
    have hafter : skimTo (n + 1) .after (.object :: outer) s =
        skimName t >>= fun v => skimTo n .value (.object :: outer) v := by
      rw [skimTo.eq_def]
      dsimp only
      rw [hs]
      rfl
    rw [inside, if_neg Bool.false_ne_true, hafter, skimName_complete hname]
    rfl

end Steps

/-- From one place in a text to what follows the brackets `opened` behind it. Of the steps that are
allowed, two for each byte and `steps` more, at least two for each byte are left there. -/
def LeadsBehind (place : Place) (opened : List Bracket) (steps : Nat) : Phrase := fun s r =>
  ∀ outer n, 2 * s.length + steps ≤ n →
    ∃ m, 2 * r.length < m ∧ skimTo n place (opened ++ outer) s = skimTo m .after outer r

def stepsInside (first : Bool) : Nat := if first then 3 else 1

theorem stepsInside_pos (first : Bool) : 0 < stepsInside first := by cases first <;> decide

theorem Separated.steps {first : Bool} {s t : List UInt8} (h : Separated first s t) :
    2 * t.length + 3 ≤ 2 * s.length + stepsInside first := by
  cases first with
  | true =>
    have hs : t = s := h
    rw [hs]
    exact le_refl _
  | false =>
    have hs : skipSpace s = Ascii.comma :: t := h
    have hlength := length_lt_of_skipSpace hs
    simp only [stepsInside, Bool.false_eq_true, ↓reduceIte]
    omega

mutual

theorem ValueAt.leadsBehind {s r : List UInt8} :
    ValueAt s r → EndsNumber r → LeadsBehind .value [] 2 s r
  | .scalar h, hr => by
    intro outer n hn
    obtain ⟨b, t, hs, hb⟩ := h.opens
    have hlength := h.length_lt
    have hle := length_skipSpace_le s
    obtain ⟨n, rfl⟩ : ∃ m, n = m + 1 := ⟨n - 1, by omega⟩
    exact ⟨n, by omega, skimTo_scalar n hs hb (skimScalar_complete (hs ▸ h) hr)⟩
  | .array h h', _ => by
    intro outer n hn
    have hlength := length_lt_of_skipSpace h
    obtain ⟨n, rfl⟩ : ∃ m, n = m + 1 := ⟨n - 1, by omega⟩
    obtain ⟨m, hm, hskim⟩ := h'.leadsBehind outer n (by simp only [stepsInside, ↓reduceIte]; omega)
    exact ⟨m, hm, (skimTo_openBracket n h).trans hskim⟩
  | .object h h', _ => by
    intro outer n hn
    have hlength := length_lt_of_skipSpace h
    obtain ⟨n, rfl⟩ : ∃ m, n = m + 1 := ⟨n - 1, by omega⟩
    obtain ⟨m, hm, hskim⟩ := h'.leadsBehind outer n (by simp only [stepsInside, ↓reduceIte]; omega)
    exact ⟨m, hm, (skimTo_openBrace n h).trans hskim⟩

theorem ElementsAt.leadsBehind {first : Bool} {s r : List UInt8} :
    ElementsAt first s r → LeadsBehind (inside first) [.array] (stepsInside first) s r
  | .close h => by
    intro outer n hn
    have hlength := length_lt_of_skipSpace h
    have hsteps := stepsInside_pos first
    obtain ⟨n, rfl⟩ : ∃ m, n = m + 1 := ⟨n - 1, by omega⟩
    exact ⟨n, by omega, skimTo_closeBracket n h⟩
  | .next hsep hvalue hrest => by
    intro outer n hn
    have hsteps := hsep.steps
    obtain ⟨b, t, ht, hb⟩ := hvalue.opens
    obtain ⟨n, rfl⟩ : ∃ m, n = m + 1 := ⟨n - 1, by omega⟩
    obtain ⟨m, hm, hskim⟩ := hvalue.leadsBehind hrest.endsNumber (.array :: outer) n (by omega)
    obtain ⟨k, hk, hskim'⟩ := hrest.leadsBehind outer m hm
    exact ⟨k, hk, (skimTo_element n hsep ht hb).trans (hskim.trans hskim')⟩

theorem MembersAt.leadsBehind {first : Bool} {s r : List UInt8} :
    MembersAt first s r → LeadsBehind (inside first) [.object] (stepsInside first) s r
  | .close h => by
    intro outer n hn
    have hlength := length_lt_of_skipSpace h
    have hsteps := stepsInside_pos first
    obtain ⟨n, rfl⟩ : ∃ m, n = m + 1 := ⟨n - 1, by omega⟩
    exact ⟨n, by omega, skimTo_closeBrace n h⟩
  | .next hsep hname hvalue hrest => by
    intro outer n hn
    have hsteps := hsep.steps
    have hlength := hname.length_lt
    obtain ⟨n, rfl⟩ : ∃ m, n = m + 1 := ⟨n - 1, by omega⟩
    obtain ⟨m, hm, hskim⟩ := hvalue.leadsBehind hrest.endsNumber (.object :: outer) n (by omega)
    obtain ⟨k, hk, hskim'⟩ := hrest.leadsBehind outer m hm
    exact ⟨k, hk, (skimTo_member n hsep hname).trans (hskim.trans hskim')⟩

end

theorem skim_complete {s r : List UInt8} (h : ValueAt s r) (hr : EndsNumber r) : skim s = .ok r := by
  obtain ⟨m, hm, hskim⟩ := h.leadsBehind hr [] _ (le_refl _)
  obtain ⟨m, rfl⟩ : ∃ k, m = k + 1 := ⟨m - 1, by omega⟩
  exact hskim

theorem ignore_complete {σ : Type} {s t r : List UInt8} (hs : skipSpace s = Ascii.colon :: t)
    (ht : ValueAt t r) (hr : EndsNumber r) (x : σ) (name : String) : ignore x name s = .ok (x, r) :=
  bind_eq_ok.mpr ⟨_, afterColon_eq_ok.mpr hs, bind_eq_ok.mpr ⟨_, skim_complete ht hr, rfl⟩⟩

theorem step_ignored {σ : Type} {d : Record σ} {name : String} (hother : d.other = ignore)
    (hname : d.member? name = none) {s t r : List UInt8} (hs : skipSpace s = Ascii.colon :: t)
    (ht : ValueAt t r) (hr : EndsNumber r) (x : List String × σ) : d.step x name s = .ok (x, r) := by
  unfold Record.step
  simp only [hname, hother, ignore_complete hs ht hr, bind, Except.bind]

end BearerCheck.Json
