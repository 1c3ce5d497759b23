import BearerCheck.Proofs.Json.Array
import BearerCheck.Proofs.Json.Skimming

namespace BearerCheck.Json

open Text

variable {α β σ : Type}

def StringIs (a : String) : Phrase := fun s r => ∃ t, skipSpace s = Ascii.quote :: t ∧ Spells a t r

def OpensString (s : List UInt8) : Prop := (skipSpace s).head? = some Ascii.quote

instance : DecidablePred OpensString := fun s =>
  inferInstanceAs (Decidable ((skipSpace s).head? = some Ascii.quote))

def ListIs (item : α → Phrase) (xs : List α) : Phrase := fun s r =>
  ∃ t, skipSpace s = Ascii.openBracket :: t ∧ Row Ascii.closeBracket item xs true t r

def ObjectIs (name : α → String) (phrase : α → Phrase) (ms : List α) : Phrase := fun s r =>
  ∃ t, skipSpace s = Ascii.openBrace :: t ∧
    Row Ascii.closeBrace (fun m => MemberIs (name m) (phrase m)) ms true t r

section Strings

variable {a : String} {s r : List UInt8}

theorem StringIs.valueAt (h : StringIs a s r) : ValueAt s r := by
  obtain ⟨t, ht, ha⟩ := h
  exact .scalar (ht ▸ .string ha.stringAt)

theorem string_of_stringIs (h : StringIs a s r) (hr : EndsNumber r) : string s = .ok (a, r) := by
  obtain ⟨t, ht, ha⟩ := h
  have hscalar : ScalarIs (.string a) (skipSpace s) r := ht ▸ .string ha
  unfold string
  rw [start_of_scalarIs hscalar hr]

theorem string?_of_denotes {depth : Nat} {x : Value} (h : Denotes depth x s r)
    (hs : ¬ OpensString s) : x.string? = none := by
  cases x with
  | scalar x =>
    cases x with
    | string t =>
      have hscalar : ScalarIs (.string t) (skipSpace s) r := by
        unfold Denotes at h
        exact h
      generalize hskip : skipSpace s = u at hscalar
      cases hscalar with
      | string _ => exact absurd (by rw [OpensString, hskip]; rfl) hs
    | _ => rfl
  | _ => rfl

end Strings

section Grammar

variable {item : α → Phrase} {xs : List α} {s r : List UInt8}

theorem Row.map {close : UInt8} {first : Bool} {f : α → β} {item' : β → Phrase}
    (hitem : ∀ x ∈ xs, ∀ s r, item x s r → item' (f x) s r) (h : Row close item xs first s r) :
    Row close item' (xs.map f) first s r := by
  induction h with
  | close h => exact .close h
  | next hsep hx _ ih =>
    have hrest := ih fun y hy => hitem y (List.mem_cons_of_mem _ hy)
    exact .next hsep (hitem _ List.mem_cons_self _ _ hx) hrest

theorem ListIs.map {f : α → β} {item' : β → Phrase}
    (hitem : ∀ x ∈ xs, ∀ s r, item x s r → item' (f x) s r) (h : ListIs item xs s r) :
    ListIs item' (xs.map f) s r := by
  obtain ⟨t, ht, hrow⟩ := h
  exact ⟨t, ht, hrow.map hitem⟩

theorem ListIs.valueAt (hitem : ∀ x ∈ xs, ∀ s r, item x s r → ValueAt s r)
    (h : ListIs item xs s r) : ValueAt s r := by
  obtain ⟨t, ht, hrow⟩ := h
  exact .array ht (hrow.elementsAt hitem)

theorem ObjectIs.valueAt {name : α → String} (hitem : ∀ x ∈ xs, ∀ s r, item x s r → ValueAt s r)
    (h : ObjectIs name item xs s r) : ValueAt s r := by
  obtain ⟨t, ht, hrow⟩ := h
  exact .object ht (hrow.membersAt hitem)

theorem list_of_listIs {read : Reader α} (hvalue : ∀ x ∈ xs, ∀ s r, item x s r → ValueAt s r)
    (hread : ∀ x ∈ xs, ∀ s r, item x s r → EndsNumber r → read (skipSpace s) = .ok (x, r))
    (h : ListIs item xs s r) : list read s = .ok (xs, r) := by
  obtain ⟨t, ht, hrow⟩ := h
  have hlength := hrow.length_le fun x hx s r h => (hvalue x hx s r h).length_lt.le
  have helements := elements_row hread (fun x hx s r h => (hvalue x hx s r h).opens) hrow
    (t.length + 1) (by omega)
  unfold list
  rw [start_array ht]
  exact helements

theorem list_string_of_listIs {ts : List String} (h : ListIs StringIs ts s r) :
    list string s = .ok (ts, r) := by
  refine list_of_listIs (fun _ _ _ _ h => h.valueAt) (fun a _ s r h hr => ?_) h
  obtain ⟨t, ht, ha⟩ := h
  exact string_of_stringIs ⟨t, (skipSpace_skipSpace s).trans ht, ha⟩ hr

theorem read_of_objectIs {name : α → String} {d : Record σ}
    {f : List String × σ → α → Except Error (List String × σ)}
    (hvalue : ∀ m ∈ xs, ∀ s r, item m s r → ValueAt s r)
    (hstep : ∀ x, ∀ m ∈ xs, ∀ s t r, skipSpace s = Ascii.colon :: t → item m t r →
      EndsNumber r → d.step x (name m) s = (f x m).map fun y => (y, r))
    (h : ObjectIs name item xs s r) (x : σ) :
    d.read x s = (xs.foldlM f ([], x)).map fun y => (y.2, r) := by
  obtain ⟨t, ht, hrow⟩ := h
  have hlength : ∀ m ∈ xs, ∀ s r, item m s r → r.length ≤ s.length :=
    fun m hm s r h => (hvalue m hm s r h).length_lt.le
  exact read_items (length_le_of_memberIs hlength) (reads_of_memberIs hstep) ht hrow x

end Grammar

section Printed

variable {xs : List α} {text : α → List UInt8}

theorem stringIs_quote (a : String) (rest : List UInt8) : StringIs a (quote a ++ rest) rest :=
  ⟨quoteTail a ++ rest, rfl, stringText_eq_ok.mp (stringText_quoteTail a rest)⟩

theorem nameIs_quote (name : String) (rest : List UInt8) :
    NameIs name (quote name ++ Ascii.colon :: rest) rest :=
  ⟨quoteTail name ++ Ascii.colon :: rest, Ascii.colon :: rest, rfl,
    stringText_eq_ok.mp (stringText_quoteTail name _), rfl⟩

theorem row_elementsTail {item : α → Phrase} (h : ∀ x ∈ xs, ∀ r, item x (text x ++ r) r)
    (r : List UInt8) :
    Row Ascii.closeBracket item xs false (elementsTail (xs.map text) ++ r) r := by
  induction xs with
  | nil => exact .close rfl
  | cons x xs ih =>
    rw [List.map_cons, elementsTail_cons]
    have hrest := ih fun y hy => h y (List.mem_cons_of_mem _ hy)
    exact .next rfl (h x List.mem_cons_self _) hrest

theorem listIs_arrayOf {item : α → Phrase} (h : ∀ x ∈ xs, ∀ r, item x (text x ++ r) r)
    (r : List UInt8) : ListIs item xs (arrayOf (xs.map text) ++ r) r := by
  rw [arrayOf_eq]
  refine ⟨arrayTail (xs.map text) ++ r, rfl, ?_⟩
  cases xs with
  | nil => exact .close rfl
  | cons x xs =>
    rw [List.map_cons, arrayTail, List.append_assoc]
    have hrest := row_elementsTail (fun y hy => h y (List.mem_cons_of_mem _ hy)) r
    exact .next rfl (h x List.mem_cons_self _) hrest

variable {name : α → String} {phrase : α → Phrase}

theorem memberIs_member {x : α} (h : ∀ r, phrase x (text x ++ r) r) (r : List UInt8) :
    MemberIs (name x) (phrase x) (member (name x, text x) ++ r) r := by
  refine ⟨text x ++ r, ?_, h r⟩
  rw [member, List.append_assoc]
  exact nameIs_quote (name x) (text x ++ r)

theorem row_membersTail (h : ∀ x ∈ xs, ∀ r, phrase x (text x ++ r) r) (r : List UInt8) :
    Row Ascii.closeBrace (fun x => MemberIs (name x) (phrase x)) xs false
      (membersTail (xs.map fun x => (name x, text x)) ++ r) r := by
  induction xs with
  | nil => exact .close rfl
  | cons x xs ih =>
    have hcons : membersTail ((x :: xs).map fun x => (name x, text x)) ++ r =
        Ascii.comma :: (member (name x, text x) ++
          (membersTail (xs.map fun x => (name x, text x)) ++ r)) := by
      simp [membersTail]
    rw [hcons]
    have hrest := ih fun y hy => h y (List.mem_cons_of_mem _ hy)
    exact .next rfl (memberIs_member (h x List.mem_cons_self) _) hrest

theorem objectIs_objectOf (h : ∀ x ∈ xs, ∀ r, phrase x (text x ++ r) r) (r : List UInt8) :
    ObjectIs name phrase xs (objectOf (xs.map fun x => (name x, text x)) ++ r) r := by
  rw [objectOf_eq]
  refine ⟨objectTail (xs.map fun x => (name x, text x)) ++ r, rfl, ?_⟩
  cases xs with
  | nil => exact .close rfl
  | cons x xs =>
    rw [List.map_cons, objectTail, List.append_assoc]
    refine .next rfl (memberIs_member (h x List.mem_cons_self) _) ?_
    exact row_membersTail (fun y hy => h y (List.mem_cons_of_mem _ hy)) r

theorem isObjectOf_objectOf (h : ∀ x ∈ xs, ∀ r, phrase x (text x ++ r) r) :
    IsObjectOf name phrase xs (objectOf (xs.map fun x => (name x, text x))) := by
  have hobject : ObjectIs name phrase xs (objectOf (xs.map fun x => (name x, text x)) ++ []) [] :=
    objectIs_objectOf h []
  rw [List.append_nil] at hobject
  obtain ⟨t, ht, hrow⟩ := hobject
  exact ⟨t, [], ht, hrow, rfl⟩

end Printed

end BearerCheck.Json
