import BearerCheck.Proofs.Json.Accepted
import BearerCheck.Proofs.Json.Row

/-!
The value that a text of the grammar stands for. Where there is one, reading finds it. A text has
none if it is nested too deep, holds a number out of range or a string that is no text.
-/

namespace BearerCheck.Json

open Text Dictionary

inductive ScalarIs : Scalar → Phrase
  | null (r : List UInt8) : ScalarIs .null ([0x6E, 0x75, 0x6C, 0x6C] ++ r) r
  | true (r : List UInt8) : ScalarIs (.bool true) ([0x74, 0x72, 0x75, 0x65] ++ r) r
  | false (r : List UInt8) : ScalarIs (.bool false) ([0x66, 0x61, 0x6C, 0x73, 0x65] ++ r) r
  | unsigned {t : List UInt8} {n : Number} (r : List UInt8) : NumberIs false t n →
      ScalarIs (.number n) (t ++ r) r
  | negative {t : List UInt8} {n : Number} (r : List UInt8) : NumberIs true t n →
      ScalarIs (.number n) (Ascii.minus :: (t ++ r)) r
  | string {t : String} {s r : List UInt8} : Spells t s r → ScalarIs (.string t) (Ascii.quote :: s) r

/-- A text stands for a value with at most so many arrays and objects inside each other. Of the
members of one name the last is meant. -/
def Denotes : Nat → Value → Phrase
  | _, .scalar x => fun s r => ScalarIs x (skipSpace s) r
  | 0, _ => fun _ _ => False
  | depth + 1, .array vs => fun s r => ∃ t, skipSpace s = Ascii.openBracket :: t ∧
      Row Ascii.closeBracket (Denotes depth) vs true t r
  | depth + 1, .object ms => fun s r => ∃ entries t, ms = ofList entries ∧
      skipSpace s = Ascii.openBrace :: t ∧
      Row Ascii.closeBrace (fun m : String × Value => MemberIs m.1 (Denotes depth m.2)) entries
        true t r

section InGrammar

variable {α : Type} {item : α → Phrase} {xs : List α} {first : Bool} {s r : List UInt8}

theorem ScalarIs.scalarAt {x : Scalar} (h : ScalarIs x s r) : ScalarAt s r := by
  cases h with
  | null => exact .null r
  | true => exact .true r
  | false => exact .false r
  | unsigned _ h => exact .unsigned r h.1
  | negative _ h => exact .negative r h.1
  | string h => exact .string h.stringAt

theorem Row.elementsAt (hitem : ∀ x ∈ xs, ∀ s r, item x s r → ValueAt s r)
    (h : Row Ascii.closeBracket item xs first s r) : ElementsAt first s r := by
  induction h with
  | close h => exact .close h
  | next hsep hx _ ih =>
    have hrest := ih fun y hy => hitem y (List.mem_cons_of_mem _ hy)
    exact .next hsep (hitem _ List.mem_cons_self _ _ hx) hrest

theorem Row.membersAt {name : α → String} (hitem : ∀ x ∈ xs, ∀ s r, item x s r → ValueAt s r)
    (h : Row Ascii.closeBrace (fun x => MemberIs (name x) (item x)) xs first s r) :
    MembersAt first s r := by
  induction h with
  | close h => exact .close h
  | next hsep hx _ ih =>
    obtain ⟨t, hname, hx⟩ := hx
    have hrest := ih fun y hy => hitem y (List.mem_cons_of_mem _ hy)
    exact .next hsep hname.nameAt (hitem _ List.mem_cons_self _ _ hx) hrest

theorem Denotes.valueAt {depth : Nat} : ∀ {v : Value} {s r : List UInt8}, Denotes depth v s r →
    ValueAt s r := by
  induction depth with
  | zero =>
    intro v s r h
    cases v with
    | scalar x => exact .scalar h.scalarAt
    | array vs => exact h.elim
    | object ms => exact h.elim
  | succ depth ih =>
    intro v s r h
    cases v with
    | scalar x => exact .scalar h.scalarAt
    | array vs =>
      obtain ⟨t, ht, hrow⟩ := h
      exact .array ht (hrow.elementsAt fun _ _ _ _ => ih)
    | object ms =>
      obtain ⟨entries, t, _, ht, hrow⟩ := h
      exact .object ht (hrow.membersAt fun _ _ _ _ => ih)

end InGrammar

section Reading

variable {s t r : List UInt8} {b : UInt8}

theorem scalar_digit (hb : (Ascii.digit? b).isSome = true) (t : List UInt8) :
    scalar b t = number false (b :: t) := by
  have hquote : b ≠ Ascii.quote := by
    rintro rfl
    cases hb
  have hminus : b ≠ Ascii.minus := by
    rintro rfl
    cases hb
  rw [scalar, if_neg hquote, if_neg hminus, if_pos hb]

theorem scalar_of_scalarIs {x : Scalar} (h : ScalarIs x (b :: t) r) (hr : EndsNumber r) :
    scalar b t = .ok (x, r) := by
  generalize hs : b :: t = s at h
  cases h with
  | null =>
    cases hs
    rfl
  | true =>
    cases hs
    rfl
  | false =>
    cases hs
    rfl
  | unsigned _ h =>
    obtain ⟨c, u, rfl, hc⟩ := unsignedText_cons h.1
    cases hs
    rw [scalar_digit hc]
    exact number_of_numberIs h hr
  | negative _ h =>
    cases hs
    exact number_of_numberIs h hr
  | string h =>
    cases hs
    exact map_eq_ok.mpr ⟨_, stringText_eq_ok.mpr h, rfl⟩

theorem start_of_scalarIs {x : Scalar} (h : ScalarIs x (skipSpace s) r) (hr : EndsNumber r) :
    start s = .ok (.scalar x, r) := by
  obtain ⟨b, t, hs, hb⟩ := h.scalarAt.opens
  rw [start_of_scalar hs hb.1 hb.2.1, scalar_of_scalarIs (hs ▸ h) hr]
  rfl

theorem start_skipSpace (s : List UInt8) : start (skipSpace s) = start s := by
  unfold start
  rw [skipSpace_skipSpace]

theorem value_skipSpace (depth : Nat) (s : List UInt8) :
    value depth (skipSpace s) = value depth s := by
  cases depth <;> simp only [value, valueBy, start_skipSpace]

theorem foldlM_insertAll (ms d : List (String × Value)) :
    ms.foldlM (fun d m => (.ok (insert m.1 m.2 d) : Except Error _)) d = .ok (insertAll d ms) := by
  induction ms generalizing d with
  | nil => rfl
  | cons m ms ih => exact ih (insert m.1 m.2 d)

theorem value_of_denotes {depth : Nat} : ∀ {v : Value} {s r : List UInt8}, Denotes depth v s r →
    EndsNumber r → value depth s = .ok (v, r) := by
  induction depth with
  | zero =>
    intro v s r h hr
    cases v with
    | scalar x => exact value_of_start (start_of_scalarIs h hr) 0
    | array vs => exact h.elim
    | object ms => exact h.elim
  | succ depth ih =>
    intro v s r h hr
    have hread (v : Value) (s r : List UInt8) (hv : Denotes depth v s r) (hr : EndsNumber r) :
        value depth (skipSpace s) = .ok (v, r) := by
      rw [value_skipSpace]
      exact ih hv hr
    cases v with
    | scalar x => exact value_of_start (start_of_scalarIs h hr) (depth + 1)
    | array vs =>
      obtain ⟨t, ht, hrow⟩ := h
      have hlength := hrow.length_le fun _ _ _ _ hv => hv.valueAt.length_lt.le
      have helements := elements_row (fun v _ => hread v) (fun _ _ _ _ hv => hv.valueAt.opens)
        hrow (t.length + 1) (by omega)
      refine bind_eq_ok.mpr ⟨_, start_array ht, map_eq_ok.mpr ⟨_, helements, rfl⟩⟩
    | object ms =>
      obtain ⟨entries, t, rfl, ht, hrow⟩ := h
      have hlength := hrow.length_le fun _ _ s r ⟨u, hname, hv⟩ =>
        (hv.valueAt.length_lt.trans hname.nameAt.length_lt).le
      have hstep (d : List (String × Value)) (m : String × Value) (_ : m ∈ entries)
          (s u r : List UInt8) (hcolon : skipSpace s = Ascii.colon :: u)
          (hv : Denotes depth m.2 u r) (hr : EndsNumber r) :
          addMember (value depth) d m.1 s =
            (Except.ok (insert m.1 m.2 d) : Except Error _).map fun y => (y, r) :=
        bind_eq_ok.mpr ⟨u, afterColon_eq_ok.mpr hcolon, bind_eq_ok.mpr ⟨_, ih hv hr, rfl⟩⟩
      have hmembers := members_row hstep hrow (t.length + 1) [] (by omega)
      rw [foldlM_insertAll] at hmembers
      refine bind_eq_ok.mpr ⟨_, start_object ht, ?_⟩
      exact map_eq_ok.mpr ⟨_, hmembers, rfl⟩

end Reading

def meaningless : List Error :=
  [.tooDeep, .numberRange, .loneSurrogate, .unpairedSurrogate, .notUtf8]

section Refusing

variable {s r : List UInt8} {b : UInt8} {t : List UInt8} {depth : Nat}

theorem number_meaning {u : List UInt8} {negative : Bool} (h : UnsignedText u)
    (hr : EndsNumber r) :
    (∃ n, NumberIs negative u n) ∨ ∃ e ∈ meaningless, number negative (u ++ r) = .error e := by
  rcases number_append h negative hr with ⟨n, hn⟩ | herror
  · exact Or.inl ⟨n, hn⟩
  · exact Or.inr ⟨.numberRange, by decide, herror⟩

theorem string_meaning (h : StringAt s r) :
    (∃ t, Spells t s r) ∨ ∃ e ∈ meaningless, stringText s = .error e := by
  rcases stringText_stops h with ⟨t, ht⟩ | ⟨e, he, herror⟩
  · exact Or.inl ⟨t, stringText_eq_ok.mp ht⟩
  · exact Or.inr ⟨e, List.mem_append_right [Error.tooDeep, .numberRange] he, herror⟩

theorem scalar_meaning (h : ScalarAt (b :: t) r) (hr : EndsNumber r) :
    (∃ x, ScalarIs x (b :: t) r) ∨ ∃ e ∈ meaningless, scalar b t = .error e := by
  generalize hs : b :: t = s at h ⊢
  cases h with
  | null => exact Or.inl ⟨_, .null r⟩
  | true => exact Or.inl ⟨_, .true r⟩
  | false => exact Or.inl ⟨_, .false r⟩
  | unsigned _ h =>
    rcases number_meaning h hr with ⟨n, hn⟩ | ⟨e, he, herror⟩
    · exact Or.inl ⟨_, .unsigned r hn⟩
    · obtain ⟨c, u, rfl, hc⟩ := unsignedText_cons h
      cases hs
      exact Or.inr ⟨e, he, (scalar_digit hc _).trans herror⟩
  | negative _ h =>
    rcases number_meaning h hr with ⟨n, hn⟩ | ⟨e, he, herror⟩
    · exact Or.inl ⟨_, .negative r hn⟩
    · cases hs
      exact Or.inr ⟨e, he, herror⟩
  | string h =>
    rcases string_meaning h with ⟨u, hu⟩ | ⟨e, he, herror⟩
    · exact Or.inl ⟨_, .string hu⟩
    · cases hs
      refine Or.inr ⟨e, he, ?_⟩
      simp only [scalar, ↓reduceIte, herror, Except.map]

theorem start_meaning (h : ScalarAt (skipSpace s) r) (hr : EndsNumber r) :
    (∃ x, ScalarIs x (skipSpace s) r) ∨ ∃ e ∈ meaningless, start s = .error e := by
  obtain ⟨b, t, hs, hb⟩ := h.opens
  rw [hs] at h ⊢
  rcases scalar_meaning h hr with hx | ⟨e, he, herror⟩
  · exact Or.inl hx
  · refine Or.inr ⟨e, he, ?_⟩
    rw [start_of_scalar hs hb.1 hb.2.1, herror]
    rfl

theorem scalarAt_meaning (h : ScalarAt (skipSpace s) r) (hr : EndsNumber r) (depth : Nat) :
    (∃ v, Denotes depth v s r) ∨ ∃ e ∈ meaningless, value depth s = .error e := by
  rcases start_meaning h hr with ⟨x, hx⟩ | ⟨e, he, herror⟩
  · left
    refine ⟨.scalar x, ?_⟩
    unfold Denotes
    exact hx
  · refine Or.inr ⟨e, he, ?_⟩
    cases depth <;> simp only [value, valueBy, herror, bind, Except.bind]

theorem ElementsAt.endsNumber (h : ElementsAt false s r) : EndsNumber s := by
  cases h with
  | close h => exact endsNumber_of_skipSpace h (Or.inr (Or.inr rfl))
  | next h => exact endsNumber_of_skipSpace h (Or.inl rfl)

theorem MembersAt.endsNumber (h : MembersAt false s r) : EndsNumber s := by
  cases h with
  | close h => exact endsNumber_of_skipSpace h (Or.inr (Or.inl rfl))
  | next h => exact endsNumber_of_skipSpace h (Or.inl rfl)

variable (inner : ∀ s r, ValueAt s r → EndsNumber r →
  (∃ v, Denotes depth v s r) ∨ ∃ e ∈ meaningless, value depth s = .error e)

include inner

-- the fuel outlasts the text: where it is used up no element is left
theorem elements_meaning : ∀ (n : Nat) (first : Bool) (s r : List UInt8), s.length < n →
    ElementsAt first s r → (∃ vs, Row Ascii.closeBracket (Denotes depth) vs first s r) ∨
      ∃ e ∈ meaningless, elements (value depth) n first s = .error e
  | n + 1, first, s, r, hn, h => by
    cases h with
    | close h => exact Or.inl ⟨[], .close h⟩
    | @next _ _ t u _ hsep hv hrest =>
      obtain ⟨b, w, hopens, hb⟩ := hv.opens
      have hturn := elementTurn_item hsep hopens hb
      have ht := hsep.length_le
      have hu := hv.length_lt
      have hends := hrest.endsNumber
      rcases inner t u hv hends with ⟨v, hdenotes⟩ | ⟨e, he, herror⟩
      · have hread := value_of_denotes hdenotes hends
        rcases elements_meaning n false u r (by omega) hrest with ⟨vs, hrow⟩ | ⟨e, he, herror⟩
        · exact Or.inl ⟨v :: vs, .next hsep hdenotes hrow⟩
        · refine Or.inr ⟨e, he, ?_⟩
          simp only [elements, hturn, bind, Except.bind, value_skipSpace, hread, herror]
      · refine Or.inr ⟨e, he, ?_⟩
        simp only [elements, hturn, bind, Except.bind, value_skipSpace, herror]

theorem members_meaning : ∀ (n : Nat) (first : Bool) (s r : List UInt8)
    (d : List (String × Value)), s.length < n → MembersAt first s r →
    (∃ entries, Row Ascii.closeBrace (fun m : String × Value => MemberIs m.1 (Denotes depth m.2))
      entries first s r) ∨
      ∃ e ∈ meaningless, members (addMember (value depth)) n first d s = .error e
  | n + 1, first, s, r, d, hn, h => by
    cases h with
    | close h => exact Or.inl ⟨[], .close h⟩
    | @next _ _ t u v _ hsep hname hv hrest =>
      have ht := hsep.length_le
      have hu := hname.length_lt
      have hlength := hv.length_lt
      have hends := hrest.endsNumber
      obtain ⟨q, w, hquote, hstring, hcolon⟩ := hname
      have hturn := memberTurn_item hsep hquote
      have hcolon' : afterColon w = .ok u := afterColon_eq_ok.mpr hcolon
      rcases string_meaning hstring with ⟨name, hspells⟩ | ⟨e, he, herror⟩
      · have hname := stringText_eq_ok.mpr hspells
        rcases inner u v hv hends with ⟨x, hdenotes⟩ | ⟨e, he, herror⟩
        · have hread := value_of_denotes hdenotes hends
          have hmember : MemberIs name (Denotes depth x) t v :=
            ⟨u, ⟨q, w, hquote, hspells, hcolon⟩, hdenotes⟩
          rcases members_meaning n false v r (insert name x d) (by omega) hrest with
            ⟨entries, hrow⟩ | ⟨e, he, herror⟩
          · exact Or.inl ⟨(name, x) :: entries, .next hsep hmember hrow⟩
          · refine Or.inr ⟨e, he, ?_⟩
            simp only [members, hturn, bind, Except.bind, hname, addMember, hcolon', hread, herror]
        · refine Or.inr ⟨e, he, ?_⟩
          simp only [members, hturn, bind, Except.bind, hname, addMember, hcolon', herror]
      · refine Or.inr ⟨e, he, ?_⟩
        simp only [members, hturn, bind, Except.bind, herror]

end Refusing

theorem value_meaning (depth : Nat) : ∀ s r, ValueAt s r → EndsNumber r →
    (∃ v, Denotes depth v s r) ∨ ∃ e ∈ meaningless, value depth s = .error e := by
  induction depth with
  | zero =>
    intro s r h hr
    cases h with
    | scalar h => exact scalarAt_meaning h hr 0
    | array h _ =>
      refine Or.inr ⟨.tooDeep, by decide, ?_⟩
      simp only [value, valueBy, start_array h, bind, Except.bind]
    | object h _ =>
      refine Or.inr ⟨.tooDeep, by decide, ?_⟩
      simp only [value, valueBy, start_object h, bind, Except.bind]
  | succ depth ih =>
    intro s r h hr
    cases h with
    | scalar h => exact scalarAt_meaning h hr (depth + 1)
    | @array _ t _ h h' =>
      rcases elements_meaning ih (t.length + 1) true t r (Nat.lt_succ_self _) h' with
        ⟨vs, hrow⟩ | ⟨e, he, herror⟩
      · exact Or.inl ⟨.array vs, t, h, hrow⟩
      · refine Or.inr ⟨e, he, ?_⟩
        simp only [value, valueBy, start_array h, bind, Except.bind, arrayOfItems, herror,
          Except.map]
    | @object _ t _ h h' =>
      rcases members_meaning ih (t.length + 1) true t r [] (Nat.lt_succ_self _) h' with
        ⟨entries, hrow⟩ | ⟨e, he, herror⟩
      · exact Or.inl ⟨.object (ofList entries), entries, t, rfl, h, hrow⟩
      · refine Or.inr ⟨e, he, ?_⟩
        simp only [value, valueBy, start_object h, bind, Except.bind, objectOfMembers, herror,
          Except.map]

end BearerCheck.Json
