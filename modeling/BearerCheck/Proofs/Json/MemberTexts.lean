import BearerCheck.Proofs.Json.Continued

/-!
Objects as lists of the texts of their members. What each of them does to a record is settled by its
text alone, so that one of a name that the record ignores may stand anywhere.
-/

namespace BearerCheck.Json

open Text

section Settled

variable {α β : Type} {s t : List UInt8}

/-- The reader takes just this text, or finds in it what is wrong, whatever follows. -/
def Settled (read : Reader α) (t : List UInt8) : Prop :=
  ∀ r, EndsNumber r → read (t ++ r) = (read t).map fun x => (x.1, r)

theorem GoesOn.settled {read : Reader α} (h : GoesOn read)
    (ht : (∃ x, read t = .ok (x, [])) ∨ ∃ e, ¬ e.AtEnd ∧ read t = .error e) : Settled read t := by
  intro r hr
  rcases h t r hr with ⟨e, he, hend⟩ | hread
  · rcases ht with ⟨x, hx⟩ | ⟨e', hend', he'⟩
    · cases he.symm.trans hx
    · cases he.symm.trans he'
      exact absurd hend hend'
  · rw [hread]
    rcases ht with ⟨x, hx⟩ | ⟨e, _, he⟩
    · rw [hx]
      rfl
    · rw [he]
      rfl

theorem Settled.map {read : Reader α} (h : Settled read t) (f : α → β) :
    Settled (fun s => (read s).map fun (x, r) => (f x, r)) t := by
  intro r hr
  simp only [h r hr]
  cases read t <;> rfl

theorem not_atEnd_of_meaningless : ∀ e ∈ meaningless, ¬ e.AtEnd := by decide

theorem value_settled (depth : Nat) (ht : ValueAt t []) : Settled (value depth) t := by
  apply (value_goesOn depth).settled
  rcases value_meaning depth t [] ht endsNumber_nil with ⟨v, hv⟩ | ⟨e, he, herror⟩
  · exact Or.inl ⟨v, value_of_denotes hv endsNumber_nil⟩
  · exact Or.inr ⟨e, not_atEnd_of_meaningless e he, herror⟩

theorem wrongType_not_atEnd (found : Found) (expected : String) :
    ¬ (Error.wrongType found expected).AtEnd := by
  simp [Error.AtEnd]

theorem ofScalar_settled (expected : String) (take : Scalar → Option α) (ht : ValueAt t []) :
    Settled (ofScalar expected take) t := by
  apply (ofScalar_goesOn expected take).settled
  have hother {x : Start} {r : List UInt8} (hstart : start t = .ok (x, r))
      (hx : ∀ v, x ≠ .scalar v) : ∃ e, ¬ e.AtEnd ∧ ofScalar expected take t = .error e := by
    unfold ofScalar mismatch
    rw [hstart]
    cases x with
    | scalar v => exact absurd rfl (hx v)
    | array => exact ⟨_, wrongType_not_atEnd .sequence expected, rfl⟩
    | object => exact ⟨_, wrongType_not_atEnd .map expected, rfl⟩
  cases ht with
  | scalar h =>
    rcases start_meaning h endsNumber_nil with ⟨v, hv⟩ | ⟨e, he, herror⟩
    · unfold ofScalar mismatch
      rw [start_of_scalarIs hv endsNumber_nil]
      dsimp only
      cases take v with
      | some x => exact Or.inl ⟨x, rfl⟩
      | none => exact Or.inr ⟨_, wrongType_not_atEnd (.scalar v) expected, rfl⟩
    · refine Or.inr ⟨e, not_atEnd_of_meaningless e he, ?_⟩
      simp only [ofScalar, mismatch, herror]
  | array h _ => exact Or.inr (hother (start_array h) (by simp))
  | object h _ => exact Or.inr (hother (start_object h) (by simp))

theorem string_settled (ht : ValueAt t []) : Settled string t :=
  string_eq ▸ ofScalar_settled _ _ ht

theorem ignore_settled {σ : Type} (x : σ) (name : String) (hs : skipSpace s = Ascii.colon :: t)
    (ht : ValueAt t []) : Settled (ignore x name) s := by
  intro r hr
  rw [ignore_complete (skipSpace_behind hs r) (ht.behind r) hr,
    ignore_complete hs ht endsNumber_nil]
  rfl

end Settled

def MemberText (m : List UInt8) : Prop := ∃ t, NameAt (Ascii.quote :: m) t ∧ ValueAt t []

def IsObjectOfTexts (ms : List (List UInt8)) (bs : List UInt8) : Prop :=
  ∃ t r, skipSpace bs = Ascii.openBrace :: t ∧
    Row Ascii.closeBrace (fun m s r => skipSpace s = Ascii.quote :: (m ++ r)) ms true t r ∧
    skipSpace r = []

namespace Record

variable {σ : Type} {d : Record σ}

structure Settles (d : Record σ) : Prop where
  known : ∀ f ∈ d.known, ∀ x t, ValueAt t [] → Settled (f.read x) t
  other : ∀ x name s t, skipSpace s = Ascii.colon :: t → ValueAt t [] →
    Settled (d.other x name) s

theorem Settles.step (hd : d.Settles) (x : List String × σ) (name : String) {s t : List UInt8}
    (hs : skipSpace s = Ascii.colon :: t) (ht : ValueAt t []) : Settled (d.step x name) s := by
  intro r hr
  unfold Record.step
  cases hf : d.member? name with
  | some f =>
    dsimp only
    split_ifs
    · rfl
    · rw [afterColon_eq_ok.mpr hs, afterColon_eq_ok.mpr (skipSpace_behind hs r)]
      have hread := hd.known f (member?_eq_some hf).1 x.2 t ht r hr
      simp only [bind, Except.bind, hread]
      cases f.read x.2 t <;> rfl
  | none =>
    have hread := hd.other x.2 name s t hs ht r hr
    simp only [bind, Except.bind, hread]
    cases d.other x.2 name s <;> rfl

theorem Settles.member (hd : d.Settles) (x : List String × σ) {m : List UInt8} (hm : MemberText m) :
    Settled (memberBy d.step x) m := by
  obtain ⟨t, ⟨m', u, hquote, hname, hu⟩, ht⟩ := hm
  obtain rfl : m = m' := (List.cons.inj hquote).2
  intro r hr
  unfold memberBy
  rcases stringText_continues m r with ⟨e, he, hend⟩ | hread
  · rcases string_meaning hname with ⟨name, hspells⟩ | ⟨e', he', herror⟩
    · cases he.symm.trans (stringText_eq_ok.mpr hspells)
    · cases he.symm.trans herror
      exact absurd hend (not_atEnd_of_meaningless e he')
  · rw [hread]
    rcases string_meaning hname with ⟨name, hspells⟩ | ⟨e, _, herror⟩
    · rw [stringText_eq_ok.mpr hspells]
      exact hd.step x name hu ht r hr
    · rw [herror]
      rfl

def take (d : Record σ) (x : List String × σ) (m : List UInt8) : Except Error (List String × σ) :=
  (memberBy d.step x m).map (·.1)

theorem Settles.document (hd : d.Settles) {ms : List (List UInt8)} {bs : List UInt8}
    (hms : ∀ m ∈ ms, MemberText m) (h : IsObjectOfTexts ms bs) (x : σ) :
    document (d.read x) bs = (ms.foldlM d.take ([], x)).map (·.2) := by
  obtain ⟨t, r, ht, hrow, hr⟩ := h
  have hlength : ∀ m ∈ ms, ∀ s r : List UInt8, skipSpace s = Ascii.quote :: (m ++ r) →
      r.length ≤ s.length := by
    intro m _ s r hs
    have hlt := length_lt_of_skipSpace hs
    rw [List.length_append] at hlt
    omega
  have hitem : ∀ x, ∀ m ∈ ms, ∀ s r : List UInt8, skipSpace s = Ascii.quote :: (m ++ r) →
      EndsNumber r → ∃ t, skipSpace s = Ascii.quote :: t ∧
        memberBy d.step x t = (d.take x m).map fun y => (y, r) := by
    intro x m hm s r hs hr
    refine ⟨m ++ r, hs, ?_⟩
    rw [hd.member x (hms m hm) r hr, take]
    cases memberBy d.step x m <;> rfl
  refine document_of_read ((read_items hlength hitem ht hrow x).trans ?_) hr
  cases ms.foldlM d.take ([], x) <;> rfl

theorem take_ignored {name : String} {m : List UInt8} (hother : d.other = ignore)
    (hname : d.member? name = none) (hm : MemberIs name ValueAt (Ascii.quote :: m) [])
    (x : List String × σ) : d.take x m = .ok x := by
  obtain ⟨t, ⟨m', u, hquote, hspells, hcolon⟩, ht⟩ := hm
  obtain rfl : m = m' := (List.cons.inj hquote).2
  have hstep := step_ignored hother hname hcolon ht endsNumber_nil x
  unfold take memberBy
  rw [stringText_eq_ok.mpr hspells]
  exact congrArg (Except.map (·.1)) hstep

theorem memberText_of_memberIs {name : String} {m : List UInt8}
    (hm : MemberIs name ValueAt (Ascii.quote :: m) []) : MemberText m := by
  obtain ⟨t, hnameIs, ht⟩ := hm
  exact ⟨t, hnameIs.nameAt, ht⟩

theorem Settles.document_insert (hd : d.Settles) (hother : d.other = ignore)
    {before after : List (List UInt8)} {m bs bs' : List UInt8} {name : String}
    (hms : ∀ m ∈ before ++ after, MemberText m) (hbs : IsObjectOfTexts (before ++ after) bs)
    (hbs' : IsObjectOfTexts (before ++ m :: after) bs')
    (hm : MemberIs name ValueAt (Ascii.quote :: m) []) (hname : d.member? name = none) (x : σ) :
    Json.document (d.read x) bs' = Json.document (d.read x) bs := by
  have hms' : ∀ m' ∈ before ++ m :: after, MemberText m' := by
    intro m' hm'
    rcases List.mem_append.mp hm' with hm' | hm'
    · exact hms m' (List.mem_append_left _ hm')
    · rcases List.mem_cons.mp hm' with rfl | hm'
      · exact memberText_of_memberIs hm
      · exact hms m' (List.mem_append_right _ hm')
  rw [hd.document hms' hbs', hd.document hms hbs, List.foldlM_append, List.foldlM_append]
  simp only [List.foldlM_cons, take_ignored hother hname hm]
  rfl

end Record

end BearerCheck.Json
