import BearerCheck.Proofs.Json.Skimming

/-!
Texts that go on. What a reader makes of a text stays as it is when more follows, unless the reader
came to the end and asked for more. So what it makes of a value is settled by the value alone.
-/

namespace BearerCheck.Json

open Text

/-- Where more text follows, a result is the same but for `more`, unless the text was cut short. -/
def Continues {ε α : Type} (cut : ε → Prop) (more : α → α) (x y : Except ε α) : Prop :=
  (∃ e, x = .error e ∧ cut e) ∨ y = x.map more

namespace Continues

variable {ε α β : Type} {cut : ε → Prop} {more : α → α} {more' : β → β}

theorem short {e : ε} {y : Except ε α} (h : cut e) : Continues cut more (.error e) y :=
  Or.inl ⟨e, rfl, h⟩

theorem bind {x y : Except ε α} {f g : α → Except ε β} (h : Continues cut more x y)
    (hf : ∀ a, Continues cut more' (f a) (g (more a))) :
    Continues cut more' (x >>= f) (y >>= g) := by
  rcases h with ⟨e, rfl, he⟩ | rfl
  · exact short he
  · cases x with
    | error e => exact Or.inr rfl
    | ok a => exact hf a

theorem map {x y : Except ε α} {f : α → β} (h : Continues cut more x y)
    (hf : ∀ a, more' (f a) = f (more a)) : Continues cut more' (x.map f) (y.map f) := by
  rcases h with ⟨e, rfl, he⟩ | rfl
  · exact short he
  · cases x with
    | error e => exact Or.inr rfl
    | ok a => exact Or.inr (congrArg Except.ok (hf a).symm)

end Continues

def Error.AtEnd (e : Error) : Prop := e ∈ [endOfValue, endOfArray, endOfObject, endOfString]

instance (e : Error) : Decidable e.AtEnd := inferInstanceAs (Decidable (_ ∈ _))

def behind {α : Type} (r : List UInt8) (x : α × List UInt8) : α × List UInt8 := (x.1, x.2 ++ r)

def GoesOn {α : Type} (read : Reader α) : Prop :=
  ∀ s r, EndsNumber r → Continues Error.AtEnd (behind r) (read s) (read (s ++ r))

section Numbers

variable {s r : List UInt8}

theorem digits_behind (s : List UInt8) (hr : EndsNumber r) :
    digits (s ++ r) = behind r (digits s) := by
  induction s with
  | nil =>
    cases r with
    | nil => rfl
    | cons b r =>
      have hb : Ascii.digit? b = none := (hr b rfl).1
      simp [digits, hb, behind]
  | cons b s ih =>
    rw [List.cons_append, digits, digits]
    cases Ascii.digit? b with
    | none => rfl
    | some d => simp only [ih, behind]

theorem someDigits_continues (s : List UInt8) (hr : EndsNumber r) :
    Continues (· = .cut) (behind r) (someDigits s) (someDigits (s ++ r)) := by
  unfold someDigits
  rw [digits_behind s hr]
  rcases digits s with ⟨ds, t⟩
  cases ds with
  | nil =>
    cases t with
    | nil => exact .short rfl
    | cons b t => exact Or.inr rfl
  | cons d ds => exact Or.inr rfl

theorem wholePart_continues (s : List UInt8) (hr : EndsNumber r) :
    Continues (· = .cut) (behind r) (wholePart s) (wholePart (s ++ r)) := by
  unfold wholePart
  rcases someDigits_continues s hr with ⟨e, he, hcut⟩ | he
  · rw [he]
    exact .short hcut
  · rw [he]
    rcases someDigits s with e | ⟨_ | ⟨_ | d, _ | ⟨d', ds⟩⟩, t⟩ <;> exact Or.inr rfl

theorem fractionPart_none {b : UInt8} (hb : b ≠ Ascii.dot) (s : List UInt8) :
    fractionPart (b :: s) = .ok ([], b :: s) := by
  unfold fractionPart
  split
  · next h => exact absurd (List.cons.inj h).1 hb
  · rfl

theorem fractionPart_continues (s : List UInt8) (hr : EndsNumber r) :
    Continues (· = .cut) (behind r) (fractionPart s) (fractionPart (s ++ r)) := by
  cases s with
  | nil =>
    right
    cases r with
    | nil => rfl
    | cons b r => exact fractionPart_none (hr b rfl).2.1 r
  | cons b s =>
    by_cases hb : b = Ascii.dot
    · rw [hb]
      exact someDigits_continues s hr
    · right
      rw [List.cons_append, fractionPart_none hb, fractionPart_none hb]
      rfl

theorem exponentSign_none {b : UInt8} (hminus : b ≠ Ascii.minus) (hplus : b ≠ Ascii.plus)
    (s : List UInt8) : exponentSign (b :: s) = (false, b :: s) := by
  unfold exponentSign
  split
  · next h => exact absurd (List.cons.inj h).1 hminus
  · next h => exact absurd (List.cons.inj h).1 hplus
  · rfl

theorem exponentSign_behind (b : UInt8) (s r : List UInt8) :
    exponentSign (b :: s ++ r) = behind r (exponentSign (b :: s)) := by
  by_cases hminus : b = Ascii.minus
  · rw [hminus]
    rfl
  · by_cases hplus : b = Ascii.plus
    · rw [hplus]
      rfl
    · rw [List.cons_append, exponentSign_none hminus hplus, exponentSign_none hminus hplus]
      rfl

theorem exponentPart_none {b : UInt8} (hb : ¬ (b = 0x65 ∨ b = 0x45)) (s : List UInt8) :
    exponentPart (b :: s) = .ok ((false, []), b :: s) := by
  rw [exponentPart, if_neg hb]

theorem exponentPart_continues (s : List UInt8) (hr : EndsNumber r) :
    Continues (· = .cut) (behind r) (exponentPart s) (exponentPart (s ++ r)) := by
  cases s with
  | nil =>
    right
    cases r with
    | nil => rfl
    | cons b r =>
      obtain ⟨_, _, he, hE⟩ := hr b rfl
      exact exponentPart_none (not_or.mpr ⟨he, hE⟩) r
  | cons b s =>
    rw [List.cons_append]
    by_cases hb : b = 0x65 ∨ b = 0x45
    · rw [exponentPart, exponentPart, if_pos hb, if_pos hb]
      cases s with
      | nil => exact .short rfl
      | cons c s =>
        rw [exponentSign_behind]
        exact (someDigits_continues _ hr).bind fun _ => Or.inr rfl
    · rw [exponentPart_none hb, exponentPart_none hb]
      exact Or.inr rfl

theorem numberText_continues (negative : Bool) (s : List UInt8) (hr : EndsNumber r) :
    Continues (· = .cut) (behind r) (numberText negative s) (numberText negative (s ++ r)) := by
  unfold numberText
  refine (wholePart_continues s hr).bind fun x => ?_
  refine (fractionPart_continues x.2 hr).bind fun y => ?_
  exact (exponentPart_continues y.2 hr).bind fun _ => Or.inr rfl

theorem number_goesOn (negative : Bool) : GoesOn (number negative) := by
  intro s r hr
  unfold number
  rcases numberText_continues negative s hr with ⟨e, he, rfl⟩ | he
  · rw [he]
    exact .short (by decide)
  · rw [he]
    rcases numberText negative s with (_ | _) | ⟨x, t⟩
    · exact .short (by decide)
    · exact Or.inr rfl
    · cases hvalue : x.value with
      | error e => exact Or.inr (by simp only [Except.map, behind, hvalue])
      | ok n => exact Or.inr (by simp only [Except.map, behind, hvalue])

end Numbers

section Strings

theorem prepend_continues {x y : Except Error (List UInt8 × List UInt8)} {r : List UInt8}
    (cs : List UInt8) (h : Continues Error.AtEnd (behind r) x y) :
    Continues Error.AtEnd (behind r) (prepend cs x) (prepend cs y) := h.map fun _ => rfl

theorem stringBytes_continues (s r : List UInt8) : ∀ state : StringState,
    Continues Error.AtEnd (behind r) (stringBytes state s) (stringBytes state (s ++ r)) := by
  induction s with
  | nil =>
    intro state
    cases state <;> exact .short (by decide)
  | cons b s ih =>
    intro state
    rw [List.cons_append]
    cases state with
    | plain =>
      unfold stringBytes
      split_ifs
      · exact Or.inr rfl
      · exact ih _
      · exact Or.inr rfl
      · exact prepend_continues _ (ih _)
    | escape =>
      unfold stringBytes
      cases escapedByte? b with
      | some c => exact prepend_continues _ (ih _)
      | none =>
        dsimp only
        split_ifs
        · exact ih _
        · exact Or.inr rfl
    | unit lead ds =>
      unfold stringBytes
      split_ifs
      · exact ih _
      · cases hexValue? (b :: ds) with
        | none => exact Or.inr rfl
        | some n =>
          dsimp only
          rcases unit lead n with e | ⟨bs, state⟩
          · exact Or.inr rfl
          · exact prepend_continues _ (ih _)
    | lead n =>
      unfold stringBytes
      split_ifs
      · exact ih _
      · exact Or.inr rfl
    | leadEscape n =>
      unfold stringBytes
      split_ifs
      · exact ih _
      · exact Or.inr rfl

theorem stringText_continues (s r : List UInt8) :
    Continues Error.AtEnd (behind r) (stringText s) (stringText (s ++ r)) := by
  unfold stringText
  refine (stringBytes_continues s r .plain).bind fun x => ?_
  rcases x with ⟨bs, t⟩
  right
  dsimp only [behind]
  cases Utf8.decode bs <;> rfl

end Strings

section Values

variable {s t r : List UInt8} {b : UInt8}

theorem word_goesOn (x : Scalar) (w : List UInt8) : GoesOn (word x w) := by
  intro s r _
  induction w generalizing s with
  | nil => exact Or.inr rfl
  | cons c w ih =>
    cases s with
    | nil => exact .short (by decide)
    | cons b s =>
      rw [List.cons_append, word, word]
      split_ifs
      · exact ih s
      · exact Or.inr rfl

theorem scalar_goesOn (b : UInt8) : GoesOn (scalar b) := by
  intro s r hr
  unfold scalar
  split_ifs
  · exact (stringText_continues s r).map fun _ => rfl
  · exact number_goesOn true s r hr
  · exact number_goesOn false (b :: s) r hr
  · exact word_goesOn _ _ s r hr
  · exact word_goesOn _ _ s r hr
  · exact word_goesOn _ _ s r hr
  · exact Or.inr rfl

theorem skipSpace_behind (h : skipSpace s = b :: t) (r : List UInt8) :
    skipSpace (s ++ r) = b :: (t ++ r) := by
  unfold skipSpace at h ⊢
  rw [List.dropWhile_append, h]
  rfl

theorem Separated.behind {first : Bool} (h : Separated first s t) (r : List UInt8) :
    Separated first (s ++ r) (t ++ r) := by
  cases first with
  | true => exact congrArg (· ++ r) (show t = s from h)
  | false => exact skipSpace_behind h r

theorem StringAt.behind (h : StringAt s t) (r : List UInt8) : StringAt (s ++ r) (t ++ r) := by
  induction h with
  | close t => exact .close (t ++ r)
  | plain hquote hback hb _ ih => exact .plain hquote hback hb ih
  | escape hb _ ih => exact .escape hb ih
  | unit hlength hdigits _ ih =>
    rw [List.cons_append, List.cons_append, List.append_assoc]
    exact .unit hlength hdigits ih

theorem ScalarAt.behind (h : ScalarAt s t) (r : List UInt8) : ScalarAt (s ++ r) (t ++ r) := by
  cases h with
  | null => exact .null (t ++ r)
  | true => exact .true (t ++ r)
  | false => exact .false (t ++ r)
  | unsigned _ h =>
    rw [List.append_assoc]
    exact .unsigned (t ++ r) h
  | negative _ h =>
    rw [List.cons_append, List.append_assoc]
    exact .negative (t ++ r) h
  | string h => exact .string (h.behind r)

theorem NameAt.behind (h : NameAt s t) (r : List UInt8) : NameAt (s ++ r) (t ++ r) := by
  obtain ⟨u, v, hu, hname, hv⟩ := h
  exact ⟨u ++ r, v ++ r, skipSpace_behind hu r, hname.behind r, skipSpace_behind hv r⟩

mutual

theorem ValueAt.behind {s t : List UInt8} (r : List UInt8) : ValueAt s t → ValueAt (s ++ r) (t ++ r)
  | .scalar h => by
    obtain ⟨b, u, hs, _⟩ := h.opens
    refine .scalar ?_
    rw [skipSpace_behind hs r, ← List.cons_append, ← hs]
    exact h.behind r
  | .array h h' => .array (skipSpace_behind h r) (h'.behind r)
  | .object h h' => .object (skipSpace_behind h r) (h'.behind r)

theorem ElementsAt.behind {first : Bool} {s t : List UInt8} (r : List UInt8) :
    ElementsAt first s t → ElementsAt first (s ++ r) (t ++ r)
  | .close h => .close (skipSpace_behind h r)
  | .next hsep h h' => .next (hsep.behind r) (h.behind r) (h'.behind r)

theorem MembersAt.behind {first : Bool} {s t : List UInt8} (r : List UInt8) :
    MembersAt first s t → MembersAt first (s ++ r) (t ++ r)
  | .close h => .close (skipSpace_behind h r)
  | .next hsep hname h h' => .next (hsep.behind r) (hname.behind r) (h.behind r) (h'.behind r)

end

theorem start_goesOn : GoesOn start := by
  intro s r hr
  cases hs : skipSpace s with
  | nil =>
    left
    refine ⟨.endOfValue, ?_, by decide⟩
    unfold start
    rw [hs]
  | cons b t =>
    have hs' := skipSpace_behind hs r
    by_cases harray : b = Ascii.openBracket
    · subst harray
      rw [start_array hs, start_array hs']
      exact Or.inr rfl
    · by_cases hobject : b = Ascii.openBrace
      · subst hobject
        rw [start_object hs, start_object hs']
        exact Or.inr rfl
      · rw [start_of_scalar hs harray hobject, start_of_scalar hs' harray hobject]
        exact (scalar_goesOn b t r hr).map fun _ => rfl

theorem afterColon_continues (s r : List UInt8) :
    Continues Error.AtEnd (· ++ r) (afterColon s) (afterColon (s ++ r)) := by
  unfold afterColon
  cases hs : skipSpace s with
  | nil => exact .short (by decide)
  | cons b t =>
    rw [skipSpace_behind hs r]
    right
    dsimp only
    split_ifs <;> rfl

def Turn.behind (r : List UInt8) : Turn → Turn
  | .next s => .next (s ++ r)
  | .close s => .close (s ++ r)

theorem elementTurn_continues (first : Bool) (s r : List UInt8) :
    Continues Error.AtEnd (Turn.behind r) (elementTurn first s) (elementTurn first (s ++ r)) := by
  unfold elementTurn
  cases hs : skipSpace s with
  | nil => exact .short (by decide)
  | cons b t =>
    rw [skipSpace_behind hs r]
    dsimp only
    split_ifs
    · exact Or.inr rfl
    · exact Or.inr rfl
    · cases ht : skipSpace t with
      | nil => exact .short (by decide)
      | cons c u =>
        rw [skipSpace_behind ht r]
        right
        dsimp only
        split_ifs <;> rfl
    · exact Or.inr rfl

theorem memberTurn_continues (first : Bool) (s r : List UInt8) :
    Continues Error.AtEnd (Turn.behind r) (memberTurn first s) (memberTurn first (s ++ r)) := by
  unfold memberTurn
  cases hs : skipSpace s with
  | nil => exact .short (by decide)
  | cons b t =>
    rw [skipSpace_behind hs r]
    dsimp only
    split_ifs
    · exact Or.inr rfl
    · exact Or.inr rfl
    · exact Or.inr rfl
    · cases ht : skipSpace t with
      | nil => exact .short (by decide)
      | cons c u =>
        rw [skipSpace_behind ht r]
        right
        dsimp only
        split_ifs <;> rfl
    · exact Or.inr rfl

end Values

section Containers

variable {α σ : Type}

theorem elements_continues {item : Reader α} (hitem : GoesOn item) {r : List UInt8}
    (hr : EndsNumber r) : ∀ (n m : Nat) (first : Bool) (s : List UInt8), n ≤ m →
      Continues Error.AtEnd (behind r) (elements item n first s) (elements item m first (s ++ r)) := by
  intro n
  induction n with
  | zero =>
    intro m first s _
    exact .short (by decide)
  | succ n ih =>
    intro m first s hm
    obtain ⟨m, rfl⟩ : ∃ k, m = k + 1 := ⟨m - 1, by omega⟩
    rw [elements, elements]
    refine (elementTurn_continues first s r).bind fun turn => ?_
    cases turn with
    | close t => exact Or.inr rfl
    | next t =>
      refine (hitem t r hr).bind fun x => ?_
      exact (ih m false x.2 (by omega)).bind fun _ => Or.inr rfl

theorem members_continues {step : σ → String → Reader σ} (hstep : ∀ x name, GoesOn (step x name))
    {r : List UInt8} (hr : EndsNumber r) : ∀ (n m : Nat) (first : Bool) (x : σ) (s : List UInt8),
      n ≤ m →
      Continues Error.AtEnd (behind r) (members step n first x s) (members step m first x (s ++ r)) := by
  intro n
  induction n with
  | zero =>
    intro m first x s _
    exact .short (by decide)
  | succ n ih =>
    intro m first x s hm
    obtain ⟨m, rfl⟩ : ∃ k, m = k + 1 := ⟨m - 1, by omega⟩
    rw [members, members]
    refine (memberTurn_continues first s r).bind fun turn => ?_
    cases turn with
    | close t => exact Or.inr rfl
    | next t =>
      refine (stringText_continues t r).bind fun name => ?_
      refine (hstep x name.1 name.2 r hr).bind fun y => ?_
      exact ih m false y.1 y.2 (by omega)

theorem arrayOfItems_goesOn {item : Reader α} (hitem : GoesOn item) : GoesOn (arrayOfItems item) := by
  intro s r hr
  apply elements_continues hitem hr
  rw [List.length_append]
  omega

theorem objectOfMembers_goesOn {step : σ → String → Reader σ}
    (hstep : ∀ x name, GoesOn (step x name)) (x : σ) : GoesOn (objectOfMembers step x) := by
  intro s r hr
  apply members_continues hstep hr
  rw [List.length_append]
  omega

theorem map_goesOn {read : Reader α} (h : GoesOn read) (f : α → σ) :
    GoesOn fun s => (read s).map fun (x, r) => (f x, r) := by
  intro s r hr
  exact (h s r hr).map fun _ => rfl

theorem addMember_goesOn {read : Reader Value} (hread : GoesOn read) (ms : List (String × Value))
    (name : String) : GoesOn (addMember read ms name) := by
  intro s r hr
  unfold addMember
  refine (afterColon_continues s r).bind fun t => ?_
  exact (hread t r hr).bind fun _ => Or.inr rfl

theorem valueBy_goesOn {array object : Reader Value} (harray : GoesOn array)
    (hobject : GoesOn object) : GoesOn (valueBy array object) := by
  intro s r hr
  unfold valueBy
  refine (start_goesOn s r hr).bind fun x => ?_
  rcases x with ⟨v | _ | _, t⟩
  · exact Or.inr rfl
  · exact harray t r hr
  · exact hobject t r hr

theorem value_goesOn (depth : Nat) : GoesOn (value depth) := by
  induction depth with
  | zero => exact valueBy_goesOn (fun _ _ _ => Or.inr rfl) (fun _ _ _ => Or.inr rfl)
  | succ depth ih =>
    apply valueBy_goesOn
    · exact map_goesOn (arrayOfItems_goesOn ih) _
    · exact map_goesOn (objectOfMembers_goesOn (addMember_goesOn ih) []) _

theorem ofScalar_goesOn (expected : String) (take : Scalar → Option α) :
    GoesOn (ofScalar expected take) := by
  intro s r hr
  rcases start_goesOn s r hr with ⟨e, he, hend⟩ | he
  · left
    exact ⟨e, by simp only [ofScalar, mismatch, he], hend⟩
  · right
    unfold ofScalar mismatch
    rw [he]
    rcases start s with e | ⟨v | _ | _, t⟩
    · rfl
    · dsimp only [Except.map, behind]
      cases take v <;> rfl
    · rfl
    · rfl

end Containers

end BearerCheck.Json
