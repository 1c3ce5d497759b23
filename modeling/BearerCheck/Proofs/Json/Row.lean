import BearerCheck.Proofs.Json.Number
import BearerCheck.Proofs.Json.Numeral
import BearerCheck.Proofs.Json.Record
import BearerCheck.Proofs.Json.Spelling

namespace BearerCheck.Json

open Text

abbrev Phrase := List UInt8 → List UInt8 → Prop

theorem isSpace_endsNumber {b : UInt8} (hb : isSpace b = true) (s : List UInt8) :
    EndsNumber (b :: s) := by
  simp only [isSpace, Bool.or_eq_true, decide_eq_true_eq, or_assoc] at hb
  intro c hc
  cases hc
  rcases hb with rfl | rfl | rfl | rfl <;> decide

theorem endsNumber_of_skipSpace {s t : List UInt8} {b : UInt8} (h : skipSpace s = b :: t)
    (hb : EndsValue b) : EndsNumber s := by
  cases s with
  | nil => exact endsNumber_nil
  | cons c s =>
    by_cases hc : isSpace c = true
    · exact isSpace_endsNumber hc s
    · have hskip : skipSpace (c :: s) = c :: s := List.dropWhile_cons_of_neg hc
      rw [hskip] at h
      obtain ⟨rfl, _⟩ := List.cons.inj h
      intro d hd
      cases hd
      rcases hb with rfl | rfl | rfl <;> decide

inductive Row {α : Type} (close : UInt8) (item : α → Phrase) : List α → Bool → Phrase
  | close {first : Bool} {s r : List UInt8} : skipSpace s = close :: r → Row close item [] first s r
  | next {x : α} {xs : List α} {first : Bool} {s t u r : List UInt8} : Separated first s t →
      item x t u → Row close item xs false u r → Row close item (x :: xs) first s r

namespace Row

variable {α : Type} {close : UInt8} {item : α → Phrase} {xs : List α} {first : Bool}
  {s r : List UInt8}

theorem endsNumber (hclose : EndsValue close) (h : Row close item xs false s r) :
    EndsNumber s := by
  cases h with
  | close h => exact endsNumber_of_skipSpace h hclose
  | next h => exact endsNumber_of_skipSpace h (Or.inl rfl)

theorem length_le (hitem : ∀ x ∈ xs, ∀ s r, item x s r → r.length ≤ s.length)
    (h : Row close item xs first s r) :
    xs.length + r.length + (if first then 0 else 1) ≤ s.length := by
  induction h with
  | @close first s r h =>
    have hs := length_skipSpace_le s
    rw [h, List.length_cons] at hs
    simp only [List.length_nil]
    split_ifs <;> omega
  | @next x xs first s t u r hsep hx _ ih =>
    have hu := hitem x List.mem_cons_self t u hx
    have hrest := ih fun y hy => hitem y (List.mem_cons_of_mem _ hy)
    rw [if_neg Bool.false_ne_true] at hrest
    rw [List.length_cons]
    cases first with
    | true =>
      have ht : t = s := hsep
      rw [if_pos rfl, ← ht]
      omega
    | false =>
      have hs := length_skipSpace_le s
      have ht : skipSpace s = Ascii.comma :: t := hsep
      rw [ht, List.length_cons] at hs
      rw [if_neg Bool.false_ne_true]
      omega

end Row

section Turns

variable {first : Bool} {s t r : List UInt8} {b : UInt8}

theorem start_array (hs : skipSpace s = Ascii.openBracket :: t) : start s = .ok (.array, t) := by
  unfold start
  rw [hs]
  rfl

theorem start_object (hs : skipSpace s = Ascii.openBrace :: t) : start s = .ok (.object, t) := by
  unfold start
  rw [hs]
  rfl

theorem elementTurn_end (h : skipSpace s = Ascii.closeBracket :: r) :
    elementTurn first s = .ok (.close r) := by
  rw [elementTurn, h]
  exact if_pos rfl

theorem memberTurn_end (h : skipSpace s = Ascii.closeBrace :: r) :
    memberTurn first s = .ok (.close r) := by
  rw [memberTurn, h]
  exact if_pos rfl

theorem elementTurn_item (hsep : Separated first s t) (ht : skipSpace t = b :: r)
    (hb : b ≠ Ascii.closeBracket) : elementTurn first s = .ok (.next (skipSpace t)) := by
  cases first with
  | true =>
    have hs : t = s := hsep
    rw [← hs, elementTurn, ht]
    simp only [hb, ↓reduceIte]
  | false =>
    have hs : skipSpace s = Ascii.comma :: t := hsep
    have hcomma : Ascii.comma ≠ Ascii.closeBracket := by decide
    rw [elementTurn, hs]
    simp only [hcomma, ht, hb, Bool.false_eq_true, ↓reduceIte]

theorem memberTurn_item (hsep : Separated first s t) (ht : skipSpace t = Ascii.quote :: r) :
    memberTurn first s = .ok (.next r) := by
  have hquote : Ascii.quote ≠ Ascii.closeBrace := by decide
  cases first with
  | true =>
    have hs : t = s := hsep
    rw [← hs, memberTurn, ht]
    simp only [hquote, ↓reduceIte]
  | false =>
    have hs : skipSpace s = Ascii.comma :: t := hsep
    have hcomma : Ascii.comma ≠ Ascii.closeBrace := by decide
    rw [memberTurn, hs]
    simp only [hcomma, ht, Bool.false_eq_true, ↓reduceIte]

end Turns

theorem elements_row {α : Type} {item : Reader α} {phrase : α → Phrase} {xs : List α}
    (hitem : ∀ x ∈ xs, ∀ s r, phrase x s r → EndsNumber r → item (skipSpace s) = .ok (x, r))
    (hopens : ∀ x ∈ xs, ∀ s r, phrase x s r →
      ∃ b t, skipSpace s = b :: t ∧ b ≠ Ascii.closeBracket)
    {first : Bool} {s r : List UInt8} (h : Row Ascii.closeBracket phrase xs first s r) :
    ∀ n, xs.length < n → elements item n first s = .ok (xs, r) := by
  induction h with
  | close h =>
    intro n hn
    cases n with
    | zero => omega
    | succ n =>
      rw [elements, elementTurn_end h]
      rfl
  | @next x xs first s t u r hsep hx hrow ih =>
    intro n hn
    cases n with
    | zero => omega
    | succ n =>
      obtain ⟨b, t', ht, hb⟩ := hopens x List.mem_cons_self t u hx
      have hread := hitem x List.mem_cons_self t u hx (hrow.endsNumber (Or.inr (Or.inr rfl)))
      have hrest := ih (fun y hy => hitem y (List.mem_cons_of_mem _ hy))
        (fun y hy => hopens y (List.mem_cons_of_mem _ hy)) n (by simpa using hn)
      rw [elements, elementTurn_item hsep ht hb]
      simp only [bind, Except.bind, hread, hrest]

def NameIs (name : String) : Phrase := fun s r =>
  ∃ t u, skipSpace s = Ascii.quote :: t ∧ Spells name t u ∧ skipSpace u = Ascii.colon :: r

theorem Spells.stringAt {t : String} {s r : List UInt8} (h : Spells t s r) : StringAt s r :=
  stringText_sound (stringText_eq_ok.mpr h)

theorem NameIs.nameAt {name : String} {s r : List UInt8} (h : NameIs name s r) : NameAt s r := by
  obtain ⟨t, u, ht, hname, hu⟩ := h
  exact ⟨t, u, ht, hname.stringAt, hu⟩

def MemberIs (name : String) (phrase : Phrase) : Phrase := fun s r =>
  ∃ t, NameIs name s t ∧ phrase t r

section Members

variable {α σ : Type} {ms : List α}

def memberBy (step : σ → String → Reader σ) (x : σ) : Reader σ := fun s => do
  let (name, r) ← stringText s
  step x name r

theorem members_items {step : σ → String → Reader σ} {item : α → Phrase}
    {f : σ → α → Except Error σ}
    (hitem : ∀ x, ∀ m ∈ ms, ∀ s r, item m s r → EndsNumber r →
      ∃ t, skipSpace s = Ascii.quote :: t ∧ memberBy step x t = (f x m).map fun y => (y, r))
    {first : Bool} {s r : List UInt8} (h : Row Ascii.closeBrace item ms first s r) :
    ∀ n x, ms.length < n → members step n first x s = (ms.foldlM f x).map fun y => (y, r) := by
  induction h with
  | close h =>
    intro n x hn
    cases n with
    | zero => omega
    | succ n => exact members_eq_ok.mpr (Or.inl ⟨memberTurn_end h, rfl⟩)
  | @next m ms first s t u r hsep hm hrow ih =>
    intro n x hn
    cases n with
    | zero => omega
    | succ n =>
      have hends := hrow.endsNumber (Or.inr (Or.inl rfl))
      obtain ⟨q, hquote, hread⟩ := hitem x m List.mem_cons_self t u hm hends
      have hrest := ih (fun y m' hm' => hitem y m' (List.mem_cons_of_mem _ hm')) n
      have hloop : members step (n + 1) first x s =
          memberBy step x q >>= fun y => members step n false y.1 y.2 := by
        rw [members, memberTurn_item hsep hquote]
        exact (bind_assoc (stringText q) _ _).symm
      rw [hloop, hread, List.foldlM_cons]
      cases f x m with
      | error e => rfl
      | ok y => exact hrest y (by simpa using hn)

theorem read_items {d : Record σ} {item : α → Phrase}
    {f : List String × σ → α → Except Error (List String × σ)} {s t r : List UInt8}
    (hlength : ∀ m ∈ ms, ∀ s r, item m s r → r.length ≤ s.length)
    (hitem : ∀ x, ∀ m ∈ ms, ∀ s r, item m s r → EndsNumber r →
      ∃ t, skipSpace s = Ascii.quote :: t ∧ memberBy d.step x t = (f x m).map fun y => (y, r))
    (ht : skipSpace s = Ascii.openBrace :: t) (hrow : Row Ascii.closeBrace item ms true t r)
    (x : σ) : d.read x s = (ms.foldlM f ([], x)).map fun y => (y.2, r) := by
  have hmore := hrow.length_le hlength
  have hmembers : objectOfMembers d.step ([], x) t = _ :=
    members_items hitem hrow (t.length + 1) ([], x) (by omega)
  unfold Record.read
  simp only [start_object ht, hmembers]
  cases ms.foldlM f ([], x) <;> rfl

variable {name : α → String} {phrase : α → Phrase}

theorem length_le_of_memberIs (hphrase : ∀ m ∈ ms, ∀ s r, phrase m s r → r.length ≤ s.length) :
    ∀ m ∈ ms, ∀ s r, MemberIs (name m) (phrase m) s r → r.length ≤ s.length :=
  fun m hm _ r ⟨u, hname, hu⟩ => (hphrase m hm u r hu).trans hname.nameAt.length_lt.le

theorem reads_of_memberIs {step : σ → String → Reader σ} {f : σ → α → Except Error σ}
    (hstep : ∀ x, ∀ m ∈ ms, ∀ s t r, skipSpace s = Ascii.colon :: t → phrase m t r →
      EndsNumber r → step x (name m) s = (f x m).map fun y => (y, r)) :
    ∀ x, ∀ m ∈ ms, ∀ s r, MemberIs (name m) (phrase m) s r → EndsNumber r →
      ∃ t, skipSpace s = Ascii.quote :: t ∧ memberBy step x t = (f x m).map fun y => (y, r) := by
  rintro x m hm s r ⟨w, ⟨q, v, hquote, hname, hcolon⟩, hphrase⟩ hr
  refine ⟨q, hquote, ?_⟩
  rw [memberBy, stringText_eq_ok.mpr hname]
  exact hstep x m hm v w r hcolon hphrase hr

theorem members_row {step : σ → String → Reader σ} {f : σ → α → Except Error σ}
    (hstep : ∀ x, ∀ m ∈ ms, ∀ s t r, skipSpace s = Ascii.colon :: t → phrase m t r →
      EndsNumber r → step x (name m) s = (f x m).map fun y => (y, r))
    {first : Bool} {s r : List UInt8}
    (h : Row Ascii.closeBrace (fun m => MemberIs (name m) (phrase m)) ms first s r) :
    ∀ n x, ms.length < n → members step n first x s = (ms.foldlM f x).map fun y => (y, r) :=
  members_items (reads_of_memberIs hstep) h

def IsObjectOf (name : α → String) (phrase : α → Phrase) (ms : List α) (bs : List UInt8) : Prop :=
  ∃ t r, skipSpace bs = Ascii.openBrace :: t ∧
    Row Ascii.closeBrace (fun m => MemberIs (name m) (phrase m)) ms true t r ∧ skipSpace r = []

theorem step_known {d : Record σ} {f : Member σ} {name : String} {ns : List String} {x : σ}
    {s t r : List UInt8} {result : Except Error σ} (hf : d.member? name = some f)
    (hs : skipSpace s = Ascii.colon :: t) (hread : f.read x t = result.map fun y => (y, r)) :
    d.step (ns, x) name s =
      (if name ∈ ns then .error (.duplicate name) else result.map fun y => (name :: ns, y)).map
        fun y => (y, r) := by
  have hcolon : afterColon s = .ok t := afterColon_eq_ok.mpr hs
  unfold Record.step
  simp only [hf, hcolon, bind, Except.bind, hread]
  split_ifs
  · rfl
  · cases result <;> rfl

theorem document_of_read {read : Reader σ} {result : Except Error σ} {s r : List UInt8}
    (h : read s = result.map fun y => (y, r)) (hr : skipSpace r = []) : document read s = result := by
  unfold document
  rw [h]
  cases result with
  | error e => rfl
  | ok y => exact if_pos hr

theorem document_row {d : Record σ}
    {f : List String × σ → α → Except Error (List String × σ)} {bs : List UInt8}
    (hphrase : ∀ m ∈ ms, ∀ s r, phrase m s r → r.length ≤ s.length)
    (hstep : ∀ x, ∀ m ∈ ms, ∀ s t r, skipSpace s = Ascii.colon :: t → phrase m t r →
      EndsNumber r → d.step x (name m) s = (f x m).map fun y => (y, r))
    (h : IsObjectOf name phrase ms bs) (x : σ) :
    document (d.read x) bs = (ms.foldlM f ([], x)).map (·.2) := by
  obtain ⟨t, r, ht, hrow, hr⟩ := h
  have hread := read_items (length_le_of_memberIs hphrase) (reads_of_memberIs hstep) ht hrow x
  refine document_of_read (hread.trans ?_) hr
  cases ms.foldlM f ([], x) <;> rfl

end Members

end BearerCheck.Json
