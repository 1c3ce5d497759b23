import BearerCheck.Proofs.Json.Typed
import BearerCheck.Proofs.Token.Segments

namespace BearerCheck.Token

open Json Text Dictionary

namespace Claims

def registered : List String := ["sub", "iat", "exp", "iss"]

def HasType (name : String) (v : Value) : Prop :=
  v = .scalar .null ∨ (name ∈ ["sub", "iss"] ∧ ∃ t, v = .scalar (.string t)) ∨
    (name ∈ ["iat", "exp"] ∧ ∃ n, v = .scalar (.number n))

structure Acceptable (ms : List (String × Value)) : Prop where
  once : ∀ name ∈ registered, (ms.map (·.1)).count name ≤ 1
  types : ∀ m ∈ ms, m.1 ∈ registered → HasType m.1 m.2

def text? (v : Value) : Option String := v.take Scalar.string?

def time? (v : Value) : Option Float := v.take Scalar.float?

def register (c : Claims) (name : String) (v : Value) : Except Json.Error Claims :=
  if name = "sub" then (typed "a string" Scalar.string? v).map fun x => { c with subject := x }
  else if name = "iat" then (typed "f64" Scalar.float? v).map fun x => { c with issuedAt := x }
  else if name = "exp" then (typed "f64" Scalar.float? v).map fun x => { c with expiresAt := x }
  else (typed "a string" Scalar.string? v).map fun x => { c with issuer := x }

def takeMember (x : List String × Claims) (m : String × Value) :
    Except Json.Error (List String × Claims) :=
  if m.1 ∈ registered then
    if m.1 ∈ x.1 then .error (.duplicate m.1)
    else (register x.2 m.1 m.2).map fun c => (m.1 :: x.1, c)
  else .ok (x.1, { x.2 with other := insert m.1 m.2.normal x.2.other })

theorem member?_eq_none {name : String} (h : name ∉ registered) : record.member? name = none := by
  refine List.find?_eq_none.mpr fun f hf => ?_
  have hmem : f.name ∈ registered := by
    simp only [record, List.mem_cons, List.not_mem_nil, or_false] at hf
    rcases hf with rfl | rfl | rfl | rfl <;> decide
  have hne : f.name ≠ name := fun he => h (he ▸ hmem)
  simpa using hne

theorem map_answers {σ α : Type} {read : Reader α} {text : List UInt8} {result : Except Json.Error α}
    (h : Answers read text result) (write : α → σ) :
    Answers (fun s => (read s).map fun (x, r) => (write x, r)) text (result.map write) := by
  intro b rest hb
  simp only [h b rest hb]
  cases result <;> rfl

theorem step_answers {m : String × Value} (hfits : m.2.Fits (depthLimit - 1)) (hwhole : m.2.Whole)
    (x : List String × Claims) :
    Answers (record.step x m.1) (Ascii.colon :: m.2.print) (takeMember x m) := by
  obtain ⟨name, v⟩ := m
  obtain ⟨ns, c⟩ := x
  have hstring := optional_answers hwhole "a string" Scalar.string?
  have hreal := optional_answers hwhole "f64" Scalar.float?
  rw [← string_eq] at hstring
  rw [← real_eq] at hreal
  by_cases hname : name ∈ registered
  · unfold takeMember register
    rw [if_pos hname]
    simp only [registered, List.mem_cons, List.not_mem_nil, or_false] at hname
    rcases hname with rfl | rfl | rfl | rfl
    · exact Record.step_answers rfl (map_answers hstring fun x => { c with subject := x })
    · exact Record.step_answers rfl (map_answers hreal fun x => { c with issuedAt := x })
    · exact Record.step_answers rfl (map_answers hreal fun x => { c with expiresAt := x })
    · exact Record.step_answers rfl (map_answers hstring fun x => { c with issuer := x })
  · unfold takeMember
    rw [if_neg hname]
    have hkeep := map_answers (addMember_answers (value_print _ v hfits hwhole) c.other name)
      fun ms => { c with other := ms }
    exact Record.step_answers_other (member?_eq_none hname) hkeep

theorem read_print {ms : List (String × Value)} (hfits : (Value.object ms).Fits depthLimit)
    (hwhole : (Value.object ms).Whole) :
    read (Value.object ms).print = (ms.foldlM takeMember ([], empty)).map (·.2) := by
  cases hwhole with
  | object hwhole =>
    have hprint : (Value.object ms).print = objectOf (named Value.print ms) := by
      rw [Value.print, printMembers_eq]
    rw [hprint]
    exact document_fold (fun x m hm => step_answers (hfits m hm) (hwhole m hm) x) empty

def others (ms : List (String × Value)) : List (String × Value) :=
  (ms.filter fun m => m.1 ∉ registered).map fun m => (m.1, m.2.normal)

def ofMembers (ms : List (String × Value)) : Claims where
  subject := (last? "sub" ms).bind text?
  issuedAt := (last? "iat" ms).bind time?
  expiresAt := (last? "exp" ms).bind time?
  issuer := (last? "iss" ms).bind text?
  other := ofList (others ms)

theorem others_append (ms : List (String × Value)) (m : String × Value) :
    others (ms ++ [m]) =
      if m.1 ∈ registered then others ms else others ms ++ [(m.1, m.2.normal)] := by
  unfold others
  split_ifs with h <;> simp [List.filter_append, h]

theorem ofMembers_append_other (ms : List (String × Value)) {m : String × Value}
    (h : m.1 ∉ registered) : ofMembers (ms ++ [m]) =
      { ofMembers ms with other := insert m.1 m.2.normal (ofMembers ms).other } := by
  have hne (name : String) (hname : name ∈ registered) : m.1 ≠ name := fun he => h (he ▸ hname)
  simp only [ofMembers, last?_concat, others_append, h, ofList_append, hne "sub" (by decide),
    hne "iat" (by decide), hne "exp" (by decide), hne "iss" (by decide), ↓reduceIte]
  rfl

theorem ofMembers_append_registered (ms : List (String × Value)) {name : String} (v : Value)
    (h : name ∈ registered) : ofMembers (ms ++ [(name, v)]) =
      { subject := if name = "sub" then text? v else (ofMembers ms).subject
        issuedAt := if name = "iat" then time? v else (ofMembers ms).issuedAt
        expiresAt := if name = "exp" then time? v else (ofMembers ms).expiresAt
        issuer := if name = "iss" then text? v else (ofMembers ms).issuer
        other := (ofMembers ms).other } := by
  have hbind {α : Type} (take : Value → Option α) (key : String) :
      (last? key (ms ++ [(name, v)])).bind take =
        if name = key then take v else (last? key ms).bind take := by
    rw [last?_concat]
    split_ifs <;> rfl
  simp only [ofMembers, hbind, others_append, h, ↓reduceIte]

theorem hasType_text {name : String} (h : name ∈ ["sub", "iss"]) (v : Value) :
    HasType name v ↔ v = .scalar .null ∨ ∃ t, text? v = some t := by
  have hname : name ∉ ["iat", "exp"] := by
    simp only [List.mem_cons, List.not_mem_nil, or_false] at h
    rcases h with rfl | rfl <;> decide
  have htext : (∃ t, text? v = some t) ↔ ∃ t, v = .scalar (.string t) := by
    unfold text? Value.take Scalar.string?
    rcases v with ⟨_ | _ | _ | _⟩ | _ | _ <;> simp
  simp only [HasType, h, hname, htext, true_and, false_and, or_false]

theorem hasType_time {name : String} (h : name ∈ ["iat", "exp"]) (v : Value) :
    HasType name v ↔ v = .scalar .null ∨ ∃ x, time? v = some x := by
  have hname : name ∉ ["sub", "iss"] := by
    simp only [List.mem_cons, List.not_mem_nil, or_false] at h
    rcases h with rfl | rfl <;> decide
  have htime : (∃ x, time? v = some x) ↔ ∃ n, v = .scalar (.number n) := by
    unfold time? Value.take Scalar.float?
    rcases v with ⟨_ | _ | _ | _⟩ | _ | _ <;> simp
  simp only [HasType, h, hname, htime, true_and, false_and, false_or]

theorem typed_text {name : String} {v : Value} (hname : name ∈ ["sub", "iss"]) :
    (HasType name v → typed "a string" Scalar.string? v = .ok (text? v)) ∧
      (¬ HasType name v → ∃ e, typed "a string" Scalar.string? v = .error e) := by
  rw [hasType_text hname]
  exact typed_cases rfl

theorem typed_time {name : String} {v : Value} (hname : name ∈ ["iat", "exp"]) :
    (HasType name v → typed "f64" Scalar.float? v = .ok (time? v)) ∧
      (¬ HasType name v → ∃ e, typed "f64" Scalar.float? v = .error e) := by
  rw [hasType_time hname]
  exact typed_cases rfl

theorem register_ok {name : String} {v : Value} (hname : name ∈ registered) (h : HasType name v)
    (ms : List (String × Value)) :
    register (ofMembers ms) name v = .ok (ofMembers (ms ++ [(name, v)])) := by
  rw [ofMembers_append_registered ms v hname]
  simp only [registered, List.mem_cons, List.not_mem_nil, or_false] at hname
  rcases hname with rfl | rfl | rfl | rfl
  · simp [register, (typed_text (by simp)).1 h, Except.map]
  · simp [register, (typed_time (by simp)).1 h, Except.map]
  · simp [register, (typed_time (by simp)).1 h, Except.map]
  · simp [register, (typed_text (by simp)).1 h, Except.map]

theorem register_error {name : String} {v : Value} (hname : name ∈ registered)
    (h : ¬ HasType name v) (c : Claims) : ∃ e, register c name v = .error e := by
  simp only [registered, List.mem_cons, List.not_mem_nil, or_false] at hname
  rcases hname with rfl | rfl | rfl | rfl
  · obtain ⟨e, he⟩ := (typed_text (by simp)).2 h
    exact ⟨e, by simp [register, he, Except.map]⟩
  · obtain ⟨e, he⟩ := (typed_time (by simp)).2 h
    exact ⟨e, by simp [register, he, Except.map]⟩
  · obtain ⟨e, he⟩ := (typed_time (by simp)).2 h
    exact ⟨e, by simp [register, he, Except.map]⟩
  · obtain ⟨e, he⟩ := (typed_text (by simp)).2 h
    exact ⟨e, by simp [register, he, Except.map]⟩

/-- The registered names of members, the last one first. -/
def met (ms : List (String × Value)) : List String :=
  ((ms.map (·.1)).filter fun name => name ∈ registered).reverse

theorem met_append (ms : List (String × Value)) (m : String × Value) :
    met (ms ++ [m]) = if m.1 ∈ registered then m.1 :: met ms else met ms := by
  unfold met
  split_ifs with h <;> simp [List.filter_append, h]

theorem mem_met {ms : List (String × Value)} {name : String} (h : name ∈ registered) :
    name ∈ met ms ↔ name ∈ ms.map (·.1) := by
  simp only [met, List.mem_reverse, List.mem_filter, h, decide_true, and_true]

theorem acceptable_nil : Acceptable [] := ⟨by simp, by simp⟩

theorem acceptable_append (ms : List (String × Value)) (m : String × Value) :
    Acceptable (ms ++ [m]) ↔
      Acceptable ms ∧ (m.1 ∈ registered → m.1 ∉ ms.map (·.1) ∧ HasType m.1 m.2) := by
  constructor
  · intro h
    refine ⟨⟨fun name hname => ?_, fun m' hm' => h.types m' (by simp [hm'])⟩, fun hm => ⟨?_, ?_⟩⟩
    · have hcount := h.once name hname
      rw [List.map_append, List.count_append] at hcount
      omega
    · intro hmem
      have hcount := h.once m.1 hm
      have hpos := List.count_pos_iff.mpr hmem
      rw [List.map_append, List.count_append] at hcount
      simp at hcount
      omega
    · exact h.types m (by simp) hm
  · rintro ⟨h, hm⟩
    refine ⟨fun name hname => ?_, fun m' hm' hname => ?_⟩
    · rw [List.map_append, List.count_append]
      by_cases he : m.1 = name
      · subst he
        have hzero := List.count_eq_zero.mpr (hm hname).1
        simp [hzero]
      · simpa [he] using h.once name hname
    · rcases List.mem_append.mp hm' with hm' | hm'
      · exact h.types m' hm' hname
      · rw [List.mem_singleton] at hm'
        subst hm'
        exact (hm hname).2

theorem takeMember_ok {ms : List (String × Value)} {m : String × Value}
    (h : m.1 ∈ registered → m.1 ∉ ms.map (·.1) ∧ HasType m.1 m.2) :
    takeMember (met ms, ofMembers ms) m = .ok (met (ms ++ [m]), ofMembers (ms ++ [m])) := by
  unfold takeMember
  by_cases hname : m.1 ∈ registered
  · obtain ⟨hfresh, htype⟩ := h hname
    rw [← mem_met hname] at hfresh
    rw [if_pos hname, if_neg hfresh, register_ok hname htype, met_append, if_pos hname]
    rfl
  · rw [if_neg hname, ofMembers_append_other ms hname, met_append, if_neg hname]

theorem takeMember_error {ms : List (String × Value)} {m : String × Value}
    (h : ¬ (m.1 ∈ registered → m.1 ∉ ms.map (·.1) ∧ HasType m.1 m.2)) :
    ∃ e, takeMember (met ms, ofMembers ms) m = .error e := by
  rw [Classical.not_imp, not_and'] at h
  obtain ⟨hname, h⟩ := h
  unfold takeMember
  rw [if_pos hname]
  by_cases hmet : m.1 ∈ met ms
  · exact ⟨_, if_pos hmet⟩
  · have htype : ¬ HasType m.1 m.2 := fun ht => h ht (mt (mem_met hname).mpr hmet)
    obtain ⟨e, he⟩ := register_error hname htype (ofMembers ms)
    exact ⟨e, by rw [if_neg hmet, he]; rfl⟩

theorem foldlM_takeMember (ms : List (String × Value)) :
    (Acceptable ms → ms.foldlM takeMember ([], empty) = .ok (met ms, ofMembers ms)) ∧
      (¬ Acceptable ms → ∃ e, ms.foldlM takeMember ([], empty) = .error e) := by
  -- one member more at the end is one step more: what was read before is all that the step sees
  induction ms using List.reverseRecOn with
  | nil => exact ⟨fun _ => rfl, fun h => absurd acceptable_nil h⟩
  | append_singleton ms m ih =>
    rw [acceptable_append, List.foldlM_append]
    by_cases hms : Acceptable ms
    · rw [ih.1 hms]
      refine ⟨fun h => ?_, fun h => ?_⟩
      · simp only [bind, Except.bind, List.foldlM_cons, List.foldlM_nil, takeMember_ok h.2]
        rfl
      · obtain ⟨e, he⟩ := takeMember_error fun hm => h ⟨hms, hm⟩
        exact ⟨e, by simp only [bind, Except.bind, List.foldlM_cons, he]⟩
    · obtain ⟨e, he⟩ := ih.2 hms
      refine ⟨fun h => absurd h.1 hms, fun _ => ⟨e, ?_⟩⟩
      rw [he]
      rfl

theorem read_object {ms : List (String × Value)} (hfits : (Value.object ms).Fits depthLimit)
    (hwhole : (Value.object ms).Whole) :
    (Acceptable ms → read (Value.object ms).print = .ok (ofMembers ms)) ∧
      (¬ Acceptable ms → ∃ e, read (Value.object ms).print = .error e) := by
  rw [read_print hfits hwhole]
  refine ⟨fun h => ?_, fun h => ?_⟩
  · rw [(foldlM_takeMember ms).1 h]
    rfl
  · obtain ⟨e, he⟩ := (foldlM_takeMember ms).2 h
    exact ⟨e, by rw [he]; rfl⟩

theorem last?_others (name : String) (ms : List (String × Value)) :
    last? name (others ms) =
      if name ∈ registered then none else (last? name ms).map Value.normal := by
  induction ms using List.reverseRecOn with
  | nil => simp [others, last?]
  | append_singleton ms m ih =>
    rw [others_append, last?_concat]
    by_cases hm : m.1 ∈ registered
    · rw [if_pos hm, ih]
      by_cases he : m.1 = name
      · subst he
        rw [if_pos hm, if_pos hm]
      · rw [if_neg he]
    · rw [if_neg hm, last?_concat, ih]
      by_cases he : m.1 = name
      · subst he
        rw [if_pos rfl, if_neg hm, if_pos rfl]
        rfl
      · rw [if_neg he, if_neg he]

theorem ofMembers_other (name : String) (ms : List (String × Value)) :
    find? name (ofMembers ms).other =
      if name ∈ registered then none else (last? name ms).map Value.normal := by
  rw [← last?_others]
  exact find?_ofList name (others ms)

def SameByName (ms ms' : List (String × Value)) : Prop :=
  ∀ name, (ms.filter fun m => m.1 = name) = ms'.filter fun m => m.1 = name

theorem SameByName.swap (ms ms' : List (String × Value)) {m m' : String × Value} (h : m.1 ≠ m'.1) :
    SameByName (ms ++ m :: m' :: ms') (ms ++ m' :: m :: ms') := by
  intro name
  rw [List.filter_append, List.filter_append]
  by_cases hm : m.1 = name
  · have hm' : m'.1 ≠ name := fun he => h (hm.trans he.symm)
    simp [hm, hm']
  · by_cases hm' : m'.1 = name <;> simp [hm, hm']

namespace SameByName

variable {ms ms' : List (String × Value)}

theorem symm (h : SameByName ms ms') : SameByName ms' ms := fun name => (h name).symm

theorem last? (h : SameByName ms ms') (name : String) :
    Dictionary.last? name ms = Dictionary.last? name ms' := by
  rw [Dictionary.last?, Dictionary.last?, h name]

theorem mem (h : SameByName ms ms') (m : String × Value) : m ∈ ms ↔ m ∈ ms' := by
  have hfilter : m ∈ (ms.filter fun e => e.1 = m.1) ↔ m ∈ ms'.filter fun e => e.1 = m.1 := by
    rw [h m.1]
  simpa using hfilter

theorem count (h : SameByName ms ms') (name : String) :
    (ms.map (·.1)).count name = (ms'.map (·.1)).count name := by
  have hlength := congrArg List.length (h name)
  rw [← List.countP_eq_length_filter, ← List.countP_eq_length_filter] at hlength
  rw [List.count_eq_countP, List.count_eq_countP, List.countP_map, List.countP_map]
  exact hlength

theorem ofMembers (h : SameByName ms ms') : Claims.ofMembers ms = Claims.ofMembers ms' := by
  have hother : (Claims.ofMembers ms).other = (Claims.ofMembers ms').other := by
    refine ext_find? (ofList_ascending _) (ofList_ascending _) fun name => ?_
    rw [ofMembers_other, ofMembers_other, h.last? name]
  simp only [Claims.ofMembers, h.last?] at hother ⊢
  rw [hother]

theorem acceptable (h : SameByName ms ms') (ha : Acceptable ms) : Acceptable ms' := by
  refine ⟨fun name hname => ?_, fun m hm => ha.types m ((h.mem m).mpr hm)⟩
  rw [← h.count name]
  exact ha.once name hname

end SameByName

def integer? : Value → Option Int
  | .scalar (.number (.integer i)) => some i.val
  | _ => none

theorem text?_eq (v : Value) : text? v = v.string? := by
  rcases v with ⟨_ | _ | _ | _⟩ | _ | _ <;> rfl

theorem time?_eq {v : Value} (hv : v.Whole) : time? v = (integer? v).map Float.ofInt := by
  cases hv with
  | @scalar s hs =>
    cases s with
    | number n =>
      cases n with
      | integer i => rfl
      | real x => exact absurd rfl (hs x)
    | _ => rfl
  | array _ => rfl
  | object _ => rfl

/-- What claims say, given the members: of a registered name its text or its number, unless it is
null, and of every other name the value that stands last. -/
structure Says (c : Claims) (ms : List (String × Value)) : Prop where
  subject : c.subject = (last? "sub" ms).bind Value.string?
  issuer : c.issuer = (last? "iss" ms).bind Value.string?
  issuedAt : c.issuedAt = ((last? "iat" ms).bind integer?).map Float.ofInt
  expiresAt : c.expiresAt = ((last? "exp" ms).bind integer?).map Float.ofInt
  ascending : Ascending c.other
  other : ∀ name, find? name c.other =
    if name ∈ registered then none else (last? name ms).map Value.normal

theorem last?_mem {name : String} {ms : List (String × Value)} {v : Value}
    (h : last? name ms = some v) : (name, v) ∈ ms := by
  obtain ⟨⟨k, w⟩, hm, he⟩ := Option.map_eq_some_iff.mp h
  have hmem := List.mem_filter.mp (List.mem_of_getLast? hm)
  simp only [decide_eq_true_eq] at hmem he
  rw [← hmem.2, ← he]
  exact hmem.1

theorem last?_time (name : String) {ms : List (String × Value)} (hwhole : ∀ m ∈ ms, m.2.Whole) :
    (last? name ms).bind time? = ((last? name ms).bind integer?).map Float.ofInt := by
  cases hlast : last? name ms with
  | none => rfl
  | some v => exact time?_eq (hwhole _ (last?_mem hlast))

theorem ofMembers_says {ms : List (String × Value)} (hwhole : ∀ m ∈ ms, m.2.Whole) :
    (ofMembers ms).Says ms where
  subject := congrArg (last? "sub" ms).bind (funext text?_eq)
  issuer := congrArg (last? "iss" ms).bind (funext text?_eq)
  issuedAt := last?_time "iat" hwhole
  expiresAt := last?_time "exp" hwhole
  ascending := ofList_ascending _
  other := fun name => ofMembers_other name ms

end Claims

open Claims

section Payload

variable {token : String} {hs : List Char} {ms : List (String × Value)} {rest : List (List Char)}
  {h : Header}

theorem decode_payload {bs : List UInt8}
    (hsegments : segments token.toList = hs :: encodeSegment bs :: rest)
    (hheader : readSegment Header.read .header hs = .ok h) :
    decode token = ((Claims.read bs).mapError (.json .payload)).map (h, ·) := by
  unfold decode
  rw [hsegments]
  simp only [hheader, readSegment_encodeSegment, bind, Except.bind]
  cases Claims.read bs <;> rfl

theorem decode_ofMembers
    (hsegments : segments token.toList = hs :: encodeSegment (Value.object ms).print :: rest)
    (hheader : readSegment Header.read .header hs = .ok h)
    (hfits : (Value.object ms).Fits depthLimit) (hwhole : (Value.object ms).Whole) :
    (Acceptable ms → decode token = .ok (h, ofMembers ms)) ∧
      (¬ Acceptable ms → ∃ e, decode token = .error (.json .payload e)) := by
  rw [decode_payload hsegments hheader]
  refine ⟨fun ha => ?_, fun ha => ?_⟩
  · rw [(read_object hfits hwhole).1 ha]
    rfl
  · obtain ⟨e, he⟩ := (read_object hfits hwhole).2 ha
    exact ⟨e, by rw [he]; rfl⟩

theorem decode_object
    (hsegments : segments token.toList = hs :: encodeSegment (Value.object ms).print :: rest)
    (hheader : readSegment Header.read .header hs = .ok h)
    (hfits : (Value.object ms).Fits depthLimit) (hwhole : (Value.object ms).Whole) :
    (Acceptable ms → ∃ c, decode token = .ok (h, c) ∧ c.Says ms) ∧
      (¬ Acceptable ms → ∃ e, decode token = .error (.json .payload e)) ∧
      ∀ (token' : String) (ms' : List (String × Value)) (rest' : List (List Char)),
        segments token'.toList = hs :: encodeSegment (Value.object ms').print :: rest' →
          SameByName ms ms' → (decode token').toOption = (decode token).toOption := by
  obtain ⟨hok, herror⟩ := decode_ofMembers hsegments hheader hfits hwhole
  have hall : ∀ m ∈ ms, m.2.Whole := by
    cases hwhole with
    | object hall => exact hall
  refine ⟨fun ha => ⟨_, hok ha, ofMembers_says hall⟩, herror, ?_⟩
  intro token' ms' rest' hsegments' hsame
  have hfits' : (Value.object ms').Fits depthLimit := fun m hm => hfits m ((hsame.mem m).mpr hm)
  have hwhole' : (Value.object ms').Whole := .object fun m hm => hall m ((hsame.mem m).mpr hm)
  obtain ⟨hok', herror'⟩ := decode_ofMembers hsegments' hheader hfits' hwhole'
  by_cases ha : Acceptable ms
  · rw [hok ha, hok' (hsame.acceptable ha), hsame.ofMembers]
  · -- which error is told may differ, as the first problem in reading order is the one
    obtain ⟨e, he⟩ := herror ha
    obtain ⟨e', he'⟩ := herror' (mt hsame.symm.acceptable ha)
    rw [he, he']
    rfl

theorem decode_object_scope :
    let early : List (String × Value) := [
      ("scope", .object [("b", .scalar (.number (.integer ⟨1, by decide⟩))),
        ("a", .scalar (.number (.integer ⟨2, by decide⟩)))]),
      ("iat", .scalar (.number (.integer ⟨5, by decide⟩))), ("scope", .scalar (.string "x"))]
    let token := "eyJhbGciOiJub25lIn0." ++
      "eyJzY29wZSI6eyJiIjoxLCJhIjoyfSwiaWF0Ijo1LCJzY29wZSI6IngiLCJleHAiOm51bGwsInN1YiI6ImFsaWNlIn0"
    let swapped := "eyJhbGciOiJub25lIn0." ++
      "eyJzY29wZSI6eyJiIjoxLCJhIjoyfSwiaWF0Ijo1LCJzY29wZSI6IngiLCJzdWIiOiJhbGljZSIsImV4cCI6bnVsbH0"
    (∃ c, decode token = .ok (⟨"none", none⟩, c) ∧
      c.Says (early ++ [("exp", .scalar .null), ("sub", .scalar (.string "alice"))])) ∧
        (decode swapped).toOption = (decode token).toOption := by
  intro early token swapped
  let hs := "eyJhbGciOiJub25lIn0".toList
  have hsegments : segments token.toList = [hs, encodeSegment (Value.object
      (early ++ [("exp", .scalar .null), ("sub", .scalar (.string "alice"))])).print] := by
    decide +kernel
  have hswapped : segments swapped.toList = [hs, encodeSegment (Value.object
      (early ++ [("sub", .scalar (.string "alice")), ("exp", .scalar .null)])).print] := by
    decide +kernel
  have hheader : readSegment Header.read .header hs = .ok ⟨"none", none⟩ := by decide +kernel
  have hscalar (s : Scalar) (hs : ∀ x, s ≠ .number (.real x)) : (Value.scalar s).Whole := .scalar hs
  obtain ⟨hok, _, horder⟩ := decode_object hsegments hheader
    (by simp [early, Value.Fits, depthLimit])
    (.object (by simp [early, hscalar, Value.Whole.object]))
  refine ⟨hok ⟨by decide, by simp [early, registered, HasType]⟩, horder _ _ _ hswapped ?_⟩
  exact SameByName.swap early [] (by decide)

end Payload

end BearerCheck.Token
