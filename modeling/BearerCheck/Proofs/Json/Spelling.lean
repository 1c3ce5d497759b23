import BearerCheck.Proofs.Json.Grammar

namespace BearerCheck.Json

open Text

def IsLead (n : Nat) : Prop := 0xD800 ≤ n ∧ n ≤ 0xDBFF

def IsTrail (n : Nat) : Prop := 0xDC00 ≤ n ∧ n ≤ 0xDFFF

@[irreducible]
def paired (m n : Nat) : Nat := 0x10000 + (m - 0xD800) * 0x400 + (n - 0xDC00)

def UnitText (ds : List UInt8) (n : Nat) : Prop := ds.length = 4 ∧ hexValue? ds.reverse = some n

inductive Spelled : List UInt8 → List UInt8 → List UInt8 → Prop
  | close (r : List UInt8) : Spelled (Ascii.quote :: r) [] r
  | plain {b : UInt8} {s bs r : List UInt8} : b ≠ Ascii.quote → b ≠ Ascii.backslash → 0x20 ≤ b →
      Spelled s bs r → Spelled (b :: s) (b :: bs) r
  | escape {b c : UInt8} {s bs r : List UInt8} : escapedByte? b = some c → Spelled s bs r →
      Spelled (Ascii.backslash :: b :: s) (c :: bs) r
  | unit {ds s bs r : List UInt8} {n : Nat} : UnitText ds n → ¬ IsLead n → ¬ IsTrail n →
      Spelled s bs r → Spelled (Ascii.backslash :: 0x75 :: (ds ++ s)) (codePoint n ++ bs) r
  | pair {ds es s bs r : List UInt8} {m n : Nat} : UnitText ds m → IsLead m → UnitText es n →
      IsTrail n → Spelled s bs r →
      Spelled (Ascii.backslash :: 0x75 :: (ds ++ Ascii.backslash :: 0x75 :: (es ++ s)))
        (codePoint (paired m n) ++ bs) r

def Spells (t : String) (s r : List UInt8) : Prop := Spelled s (Utf8.encode t) r

section Units

variable {lead : Option Nat} {m n : Nat} {ds s bs r : List UInt8} {state : StringState}

theorem unit_none (hlead : ¬ IsLead n) (htrail : ¬ IsTrail n) :
    unit none n = .ok (codePoint n, .plain) := (if_neg htrail).trans (if_neg hlead)

theorem unit_lead (hlead : IsLead n) : unit none n = .ok ([], .lead n) := by
  have htrail : ¬ IsTrail n := by
    unfold IsLead at hlead
    unfold IsTrail
    omega
  exact (if_neg htrail).trans (if_pos hlead)

theorem unit_trail (htrail : IsTrail n) :
    unit (some m) n = .ok (codePoint (paired m n), .plain) := by
  unfold IsTrail at htrail
  unfold unit paired
  dsimp only
  rw [if_pos htrail]

theorem hexValue?_of_digits (h : ∀ d ∈ ds, (Ascii.hexDigit? d).isSome = true) :
    ∃ n, hexValue? ds = some n := by
  induction ds with
  | nil => exact ⟨0, rfl⟩
  | cons d ds ih =>
    obtain ⟨n, hn⟩ := ih fun e he => h e (List.mem_cons_of_mem _ he)
    obtain ⟨k, hk⟩ := Option.isSome_iff_exists.mp (h d List.mem_cons_self)
    exact ⟨16 * n + k, by simp [hexValue?, hn, hk]⟩

theorem stringBytes_unit (h : UnitText ds n) (lead : Option Nat) (s : List UInt8) :
    stringBytes (.unit lead []) (ds ++ s) =
      unit lead n >>= fun x => prepend x.1 (stringBytes x.2 s) := by
  obtain ⟨hlength, hvalue⟩ := h
  obtain ⟨a, b, c, d, rfl⟩ := List.length_eq_four.mp hlength
  have hvalue : hexValue? [d, c, b, a] = some n := hvalue
  simp only [List.cons_append, List.nil_append, stringBytes, List.length_cons, List.length_nil,
    hvalue]
  cases unit lead n <;> rfl

theorem unitText_of_stringBytes (h : stringBytes (.unit lead []) s = .ok (bs, r)) :
    ∃ ds t n, s = ds ++ t ∧ UnitText ds n := by
  match s with
  | [] | [_] | [_, _] | [_, _, _] => cases h
  | a :: b :: c :: d :: t =>
    cases hvalue : hexValue? [d, c, b, a] with
    | none =>
      simp only [stringBytes, List.length_cons, List.length_nil, hvalue] at h
      cases h
    | some n => exact ⟨[a, b, c, d], t, n, rfl, rfl, hvalue⟩

end Units

section Steps

variable {b c : UInt8} {s bs r : List UInt8}

theorem stringBytes_plain (hquote : b ≠ Ascii.quote) (hback : b ≠ Ascii.backslash) (hb : 0x20 ≤ b)
    (s : List UInt8) : stringBytes .plain (b :: s) = prepend [b] (stringBytes .plain s) := by
  rw [stringBytes, if_neg hquote, if_neg hback, if_neg (by simpa using hb)]

theorem stringBytes_escaped (hc : escapedByte? b = some c) (s : List UInt8) :
    stringBytes .plain (Ascii.backslash :: b :: s) = prepend [c] (stringBytes .plain s) := by
  have hopen : stringBytes .plain (Ascii.backslash :: b :: s) = stringBytes .escape (b :: s) := rfl
  rw [hopen, stringBytes, hc]

theorem stringBytes_opens_unit (s : List UInt8) :
    stringBytes .plain (Ascii.backslash :: 0x75 :: s) = stringBytes (.unit none []) s := rfl

theorem stringBytes_opens_trail (m : Nat) (s : List UInt8) :
    stringBytes (.lead m) (Ascii.backslash :: 0x75 :: s) = stringBytes (.unit (some m) []) s := rfl

theorem prepend_eq_ok {cs : List UInt8} {read : Except Error (List UInt8 × List UInt8)} :
    prepend cs read = .ok (bs, r) ↔ ∃ ds, read = .ok (ds, r) ∧ bs = cs ++ ds := by
  unfold prepend
  rw [map_eq_ok]
  constructor
  · rintro ⟨⟨ds, r⟩, hread, h⟩
    cases h
    exact ⟨ds, hread, rfl⟩
  · rintro ⟨ds, hread, rfl⟩
    exact ⟨(ds, r), hread, rfl⟩

end Steps

theorem stringBytes_spelled {s bs r : List UInt8} (h : Spelled s bs r) :
    stringBytes .plain s = .ok (bs, r) := by
  induction h with
  | close r => rfl
  | plain hquote hback hb _ ih =>
    rw [stringBytes_plain hquote hback hb, ih]
    rfl
  | escape hc _ ih =>
    rw [stringBytes_escaped hc, ih]
    rfl
  | unit hds hlead htrail _ ih =>
    rw [stringBytes_opens_unit, stringBytes_unit hds, unit_none hlead htrail]
    exact prepend_eq_ok.mpr ⟨_, ih, rfl⟩
  | pair hds hlead hes htrail _ ih =>
    rw [stringBytes_opens_unit, stringBytes_unit hds, unit_lead hlead]
    refine prepend_eq_ok.mpr ⟨_, ?_, (List.nil_append _).symm⟩
    rw [stringBytes_opens_trail, stringBytes_unit hes, unit_trail htrail]
    exact prepend_eq_ok.mpr ⟨_, ih, rfl⟩

theorem unit_none_eq_ok {n : Nat} {cs : List UInt8} {state : StringState}
    (h : unit none n = .ok (cs, state)) :
    (¬ IsLead n ∧ ¬ IsTrail n ∧ cs = codePoint n ∧ state = .plain) ∨
      (IsLead n ∧ cs = [] ∧ state = .lead n) := by
  by_cases htrail : IsTrail n
  · have herror : unit none n = .error .loneSurrogate := if_pos htrail
    cases herror.symm.trans h
  · by_cases hlead : IsLead n
    · cases (unit_lead hlead).symm.trans h
      exact Or.inr ⟨hlead, rfl, rfl⟩
    · cases (unit_none hlead htrail).symm.trans h
      exact Or.inl ⟨hlead, htrail, rfl, rfl⟩

theorem unit_some_eq_ok {m n : Nat} {cs : List UInt8} {state : StringState}
    (h : unit (some m) n = .ok (cs, state)) :
    IsTrail n ∧ cs = codePoint (paired m n) ∧ state = .plain := by
  by_cases htrail : IsTrail n
  · cases (unit_trail htrail).symm.trans h
    exact ⟨htrail, rfl, rfl⟩
  · have herror : unit (some m) n = .error .loneSurrogate := if_neg htrail
    cases herror.symm.trans h

theorem stringBytes_lead_eq_ok {m : Nat} {s bs r : List UInt8}
    (h : stringBytes (.lead m) s = .ok (bs, r)) :
    ∃ es t n cs, s = Ascii.backslash :: 0x75 :: (es ++ t) ∧ UnitText es n ∧ IsTrail n ∧
      stringBytes .plain t = .ok (cs, r) ∧ bs = codePoint (paired m n) ++ cs := by
  cases s with
  | nil => cases h
  | cons b s =>
    unfold stringBytes at h
    split_ifs at h with hback
    cases s with
    | nil => cases h
    | cons c s =>
      unfold stringBytes at h
      split_ifs at h with hu
      obtain ⟨es, t, n, rfl, hes⟩ := unitText_of_stringBytes h
      rw [stringBytes_unit hes] at h
      obtain ⟨⟨cs, state⟩, hunit, h⟩ := bind_eq_ok.mp h
      obtain ⟨htrail, rfl, rfl⟩ := unit_some_eq_ok hunit
      obtain ⟨ds, hds, rfl⟩ := prepend_eq_ok.mp h
      exact ⟨es, t, n, ds, by rw [hback, hu], hes, htrail, hds, rfl⟩

theorem spelled_of_escape {s bs r : List UInt8}
    (rest : ∀ t cs, t.length < s.length → stringBytes .plain t = .ok (cs, r) → Spelled t cs r)
    (h : stringBytes .escape s = .ok (bs, r)) : Spelled (Ascii.backslash :: s) bs r := by
  cases s with
  | nil => cases h
  | cons b s =>
    unfold stringBytes at h
    split at h
    · next c hc =>
      obtain ⟨cs, hcs, rfl⟩ := prepend_eq_ok.mp h
      exact .escape hc (rest s cs (Nat.lt_succ_self _) hcs)
    · split_ifs at h with hu
      obtain ⟨ds, t, n, rfl, hds⟩ := unitText_of_stringBytes h
      rw [stringBytes_unit hds] at h
      obtain ⟨⟨cs, state⟩, hunit, h⟩ := bind_eq_ok.mp h
      obtain ⟨es, hes, rfl⟩ := prepend_eq_ok.mp h
      rcases unit_none_eq_ok hunit with ⟨hlead, htrail, rfl, rfl⟩ | ⟨hlead, rfl, rfl⟩
      · have hshort : t.length < (b :: (ds ++ t)).length := by
          simp only [List.length_cons, List.length_append]
          omega
        exact hu ▸ .unit hds hlead htrail (rest t es hshort hes)
      · obtain ⟨fs, u, m, cs, rfl, hfs, htrail, hcs, rfl⟩ := stringBytes_lead_eq_ok hes
        have hshort : u.length < (b :: (ds ++ Ascii.backslash :: 0x75 :: (fs ++ u))).length := by
          simp only [List.length_cons, List.length_append]
          omega
        rw [List.nil_append]
        exact hu ▸ .pair hds hlead hfs htrail (rest u cs hshort hcs)

theorem spelled_of_stringBytes (n : Nat) : ∀ s bs r : List UInt8, s.length < n →
    stringBytes .plain s = .ok (bs, r) → Spelled s bs r := by
  -- an escape takes up to twelve bytes at once, so that the induction is on the length
  induction n with
  | zero => intro s bs r hs; omega
  | succ n ih =>
    intro s bs r hs h
    cases s with
    | nil => cases h
    | cons b s =>
      rw [List.length_cons] at hs
      unfold stringBytes at h
      split_ifs at h with hquote hback hcontrol
      · cases h
        exact hquote ▸ .close _
      · exact hback ▸ spelled_of_escape (fun t cs ht => ih t cs r (by omega)) h
      · obtain ⟨cs, hcs, rfl⟩ := prepend_eq_ok.mp h
        exact .plain hquote hback (by simpa using hcontrol) (ih s cs r (by omega) hcs)

theorem stringText_eq_ok {s r : List UInt8} {t : String} :
    stringText s = .ok (t, r) ↔ Spells t s r := by
  unfold stringText
  rw [bind_eq_ok]
  constructor
  · rintro ⟨⟨bs, u⟩, hbs, h⟩
    cases hd : Utf8.decode bs with
    | none => simp [hd] at h
    | some t' =>
      simp only [hd] at h
      cases h
      have hspelled := spelled_of_stringBytes _ s bs _ (Nat.lt_succ_self _) hbs
      rwa [← Utf8.encode_of_decode hd] at hspelled
  · intro h
    exact ⟨(Utf8.encode t, r), stringBytes_spelled h, by simp [Utf8.decode_encode]⟩

section Stopping

variable {α β : Type} {errors : List Error} {r : List UInt8}

def StopsAt (errors : List Error) (read : Except Error (α × List UInt8)) (r : List UInt8) : Prop :=
  (∃ x, read = .ok (x, r)) ∨ ∃ e ∈ errors, read = .error e

theorem StopsAt.map {read : Except Error (α × List UInt8)} (h : StopsAt errors read r) (f : α → β) :
    StopsAt errors (read.map fun (x, r) => (f x, r)) r := by
  rcases h with ⟨x, rfl⟩ | ⟨e, he, rfl⟩
  · exact Or.inl ⟨f x, rfl⟩
  · exact Or.inr ⟨e, he, rfl⟩

def surrogateErrors : List Error := [.loneSurrogate, .unpairedSurrogate]

theorem stringBytes_stops {s : List UInt8} (h : StringAt s r) :
    StopsAt surrogateErrors (stringBytes .plain s) r ∧
      ∀ m, StopsAt surrogateErrors (stringBytes (.lead m) s) r := by
  have hunpaired : Error.unpairedSurrogate ∈ surrogateErrors := by decide
  have hlone : Error.loneSurrogate ∈ surrogateErrors := by decide
  induction h with
  | close r => exact ⟨Or.inl ⟨[], rfl⟩, fun m => Or.inr ⟨_, hunpaired, rfl⟩⟩
  | plain hquote hback hb _ ih =>
    constructor
    · rw [stringBytes_plain hquote hback hb]
      exact ih.1.map _
    · intro m
      exact Or.inr ⟨_, hunpaired, by rw [stringBytes, if_neg hback]⟩
  | @escape b s r hb _ ih =>
    obtain ⟨c, hc⟩ := Option.isSome_iff_exists.mp hb
    constructor
    · rw [stringBytes_escaped hc]
      exact ih.1.map _
    · intro m
      have hu : b ≠ 0x75 := by
        rintro rfl
        cases hc
      have hopen : stringBytes (.lead m) (Ascii.backslash :: b :: s) =
          stringBytes (.leadEscape m) (b :: s) := rfl
      exact Or.inr ⟨_, hunpaired, by rw [hopen, stringBytes, if_neg hu]⟩
  | @unit ds s r hlength hdigits _ ih =>
    obtain ⟨n, hn⟩ := hexValue?_of_digits fun d hd => hdigits d (List.mem_reverse.mp hd)
    have hds : UnitText ds n := ⟨hlength, hn⟩
    constructor
    · rw [stringBytes_opens_unit, stringBytes_unit hds]
      by_cases htrail : IsTrail n
      · have herror : unit none n = .error .loneSurrogate := if_pos htrail
        exact Or.inr ⟨_, hlone, by rw [herror]; rfl⟩
      by_cases hlead : IsLead n
      · rw [unit_lead hlead]
        exact (ih.2 n).map _
      · rw [unit_none hlead htrail]
        exact ih.1.map _
    · intro m
      rw [stringBytes_opens_trail, stringBytes_unit hds]
      by_cases htrail : IsTrail n
      · rw [unit_trail htrail]
        exact ih.1.map _
      · have herror : unit (some m) n = .error .loneSurrogate := if_neg htrail
        exact Or.inr ⟨_, hlone, by rw [herror]; rfl⟩

theorem stringText_stops {s : List UInt8} (h : StringAt s r) :
    StopsAt [.loneSurrogate, .unpairedSurrogate, .notUtf8] (stringText s) r := by
  rcases (stringBytes_stops h).1 with ⟨bs, hbs⟩ | ⟨e, he, hbs⟩
  · unfold stringText
    rw [hbs]
    cases hd : Utf8.decode bs with
    | none => exact Or.inr ⟨.notUtf8, by decide, by simp [bind, Except.bind, hd]⟩
    | some t => exact Or.inl ⟨t, by simp [bind, Except.bind, hd]⟩
  · have he : e ∈ [Error.loneSurrogate, .unpairedSurrogate, .notUtf8] :=
      List.mem_append_left [Error.notUtf8] he
    exact Or.inr ⟨e, he, by unfold stringText; rw [hbs]; rfl⟩

end Stopping

end BearerCheck.Json
