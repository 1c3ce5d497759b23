import BearerCheck.Proofs.Text.Utf8
import BearerCheck.Proofs.Url.Front

namespace BearerCheck.Url

open Text Segments

def IsWord (s : List Char) : Prop := s ≠ [] ∧ ∀ c ∈ s, c.isAlpha = true

def IsSmallWord (s : List Char) : Prop := s ≠ [] ∧ ∀ c ∈ s, c.isLower = true

-- by the characters of the word, not by all there are
instance (s : List Char) : Decidable (IsWord s) := @instDecidableAnd _ _ _ (List.decidableBAll _ s)

instance (s : List Char) : Decidable (IsSmallWord s) :=
  @instDecidableAnd _ _ _ (List.decidableBAll _ s)

def small (s : List Char) : List Char := s.map Char.toLower

section Letter

variable {c : Char}

/-- Letters and digits are ASCII, so that there are only a few to look at. -/
theorem of_isAlphanum {P : Char → Prop}
    (h : ∀ n < 128, (Char.ofNat n).isAlphanum = true → P (Char.ofNat n))
    (hc : c.isAlphanum = true) : P c := by
  have hbound {a : Char} (ha : a.toNat < 128) (hle : c.val ≤ a.val) : c.toNat < 128 :=
    lt_of_le_of_lt (UInt32.le_iff_toNat_le.mp hle) ha
  have hlt : c.toNat < 128 := by
    rcases Bool.or_eq_true_iff.mp hc with hc | hdigit
    · rcases Bool.or_eq_true_iff.mp hc with hupper | hlower
      · exact hbound (a := 'Z') (by decide) (of_decide_eq_true hupper).2
      · exact hbound (a := 'z') (by decide) (of_decide_eq_true (Bool.and_eq_true_iff.mp hlower).2)
    · exact hbound (a := '9') (by decide) (of_decide_eq_true (Bool.and_eq_true_iff.mp hdigit).2)
  rw [← Char.ofNat_toNat c] at hc ⊢
  exact h c.toNat hlt hc

theorem of_isAlpha {P : Char → Prop}
    (h : ∀ n < 128, (Char.ofNat n).isAlpha = true → P (Char.ofNat n)) (hc : c.isAlpha = true) :
    P c := by
  have halnum : c.isAlphanum = true := Bool.or_eq_true_iff.mpr (Or.inl hc)
  exact of_isAlphanum (P := fun c => c.isAlpha = true → P c) (fun n hn _ => h n hn) halnum hc

theorem isAlpha_of_isLower (hc : c.isLower = true) : c.isAlpha = true :=
  Bool.or_eq_true_iff.mpr (Or.inr hc)

theorem toLower_of_isLower (hc : c.isLower = true) : c.toLower = c :=
  of_isAlpha (P := fun c => c.isLower = true → c.toLower = c) (by decide) (isAlpha_of_isLower hc) hc

theorem isLower_toLower (hc : c.isAlpha = true) : c.toLower.isLower = true :=
  of_isAlpha (P := fun c => c.toLower.isLower = true) (by decide) hc

theorem ne_of_isAlpha {d : Char} (hd : d.isAlpha = false) (hc : c.isAlpha = true) : c ≠ d := by
  rintro rfl
  rw [hc] at hd
  cases hd

end Letter

section Digits

def addDigit (base : Nat) (n : Option Nat) (c : Char) : Option Nat := do
  let d ← digitsValue?.digit? c
  if d < base then some (base * (← n) + d) else none

theorem digitsValue?_eq (base : Nat) (ds : List Char) :
    digitsValue? base ds = ds.foldl (addDigit base) (some 0) := rfl

theorem addDigit_none (base : Nat) (c : Char) : addDigit base none c = none := by
  unfold addDigit
  cases digitsValue?.digit? c with
  | none => rfl
  | some d => exact ite_self none

theorem foldl_addDigit_none (base : Nat) (ds : List Char) :
    ds.foldl (addDigit base) none = none := by
  induction ds with
  | nil => rfl
  | cons c ds ih => rw [List.foldl_cons, addDigit_none, ih]

theorem addDigit_letter {c : Char} (hc : c.isAlpha = true) (n : Option Nat) :
    addDigit 10 n c = none := by
  have hlarge : ∀ d, digitsValue?.digit? c = some d → ¬ d < 10 :=
    of_isAlpha (P := fun c => ∀ d, digitsValue?.digit? c = some d → ¬ d < 10) (by decide) hc
  unfold addDigit
  cases hd : digitsValue?.digit? c with
  | none => rfl
  | some d => exact if_neg (hlarge d hd)

theorem addDigit_digit {c : Char} (hc : c.isDigit = true) (n : Nat) :
    addDigit 10 (some n) c = some (10 * n + (c.toNat - 48)) := by
  have hlt : c.toNat - 48 < 10 := by
    have hle : c.toNat ≤ 57 := by
      simp only [Char.isDigit, Bool.and_eq_true, decide_eq_true_eq, UInt32.le_iff_toNat_le] at hc
      exact hc.2
    omega
  unfold addDigit digitsValue?.digit?
  rw [if_pos hc]
  exact if_pos hlt

theorem digitsValue?_digits {ds : List Char} (h : ∀ c ∈ ds, c.isDigit = true) :
    digitsValue? 10 ds = some (Nat.ofDigitChars 10 ds 0) := by
  rw [digitsValue?_eq]
  generalize 0 = n
  induction ds generalizing n with
  | nil => rfl
  | cons c ds ih =>
    rw [List.foldl_cons, addDigit_digit (h c List.mem_cons_self), Nat.ofDigitChars_cons]
    exact ih (fun d hd => h d (List.mem_cons_of_mem _ hd)) _

theorem isDigit_of_mem_decimal {n : Nat} {c : Char} (h : c ∈ Nat.toDigits 10 n) :
    c.isDigit = true := Nat.isDigit_of_mem_toDigits (by decide) (by decide) h

theorem digitsValue?_decimal (n : Nat) : digitsValue? 10 (Nat.toDigits 10 n) = some n := by
  rw [digitsValue?_digits fun c => isDigit_of_mem_decimal, Nat.ofDigitChars_ten_toDigits]

end Digits

namespace IsWord

variable {s : List Char}

theorem not_mem (hs : IsWord s) {d : Char} (hd : d.isAlpha = false) : d ∉ s :=
  fun hmem => ne_of_isAlpha hd (hs.2 d hmem) rfl

theorem isSmallWord_small (hs : IsWord s) : IsSmallWord (small s) := by
  refine ⟨by simpa [small] using hs.1, fun c hc => ?_⟩
  obtain ⟨b, hb, rfl⟩ := List.mem_map.mp hc
  exact isLower_toLower (hs.2 b hb)

end IsWord

namespace IsSmallWord

variable {s : List Char}

theorem isWord (hs : IsSmallWord s) : IsWord s :=
  ⟨hs.1, fun c hc => isAlpha_of_isLower (hs.2 c hc)⟩

theorem small_eq (hs : IsSmallWord s) : small s = s :=
  (List.map_congr_left fun c hc => toLower_of_isLower (hs.2 c hc)).trans (List.map_id s)

end IsSmallWord

section Percent

theorem decode_plain {bs : List UInt8} (h : 0x25 ∉ bs) : Percent.decode bs = bs := by
  fun_induction Percent.decode bs with
  | case1 => rfl
  | case2 b => rfl
  | case3 b c => rfl
  | case4 => simp at h
  | case5 => simp at h
  | case6 b c d r _ ih => rw [ih fun hmem => h (List.mem_cons_of_mem _ hmem)]

theorem IsWord.percent_not_mem {s : List Char} (hs : IsWord s) :
    0x25 ∉ Utf8.encode (String.ofList s) := by
  rw [Utf8.encode_ofList]
  intro hmem
  obtain ⟨c, hc, hb⟩ := List.mem_flatMap.mp hmem
  have hplain : 0x25 ∉ String.utf8EncodeChar c :=
    of_isAlpha (P := fun c => 0x25 ∉ String.utf8EncodeChar c) (by decide) (hs.2 c hc)
  exact hplain hb

end Percent

section Name

theorem labels_of_dot_not_mem {s : List Char} (h : '.' ∉ s) : Domain.labels s = [s] := by
  induction s with
  | nil => rfl
  | cons c r ih =>
    rw [List.mem_cons, not_or] at h
    rw [Domain.labels, ih h.2]
    exact if_neg (Ne.symm h.1)

variable {s : List Char}

theorem IsWord.not_isEncoded (hs : IsWord s) : Domain.isEncoded s = false := by
  rw [Domain.isEncoded, Bool.eq_false_iff]
  intro hprefix
  have hmem : '-' ∈ s := (List.isPrefixOf_iff_prefix.mp hprefix).subset (by decide)
  exact hs.not_mem rfl hmem

theorem IsWord.toAscii? (hs : IsWord s) : Domain.toAscii? s = some (small s) := by
  have hword := hs.isSmallWord_small.isWord
  have hascii : (small s).all Domain.isAscii = true := by
    rw [List.all_eq_true]
    exact fun c hc => of_isAlpha (P := fun c => Domain.isAscii c = true) (by decide) (hword.2 c hc)
  have hlabels : (Domain.labels (small s)).any Domain.isEncoded = false := by
    rw [labels_of_dot_not_mem (hword.not_mem rfl)]
    simp [hword.not_isEncoded]
  have hallowed : (small s).any Domain.isForbidden = false := by
    rw [List.any_eq_false]
    exact fun c hc => of_isAlpha (P := fun c => ¬ Domain.isForbidden c = true) (by decide)
      (hword.2 c hc)
  unfold small at hascii hlabels hallowed ⊢
  simp only [Domain.toAscii?, hascii, hlabels, hallowed, Option.bind_eq_bind, Option.bind_some,
    Bool.not_false, and_self, Bool.false_eq_true, if_true, if_false]

theorem number?_word (hs : IsWord s) : Ipv4.number? s = none := by
  obtain ⟨c, r, rfl⟩ := List.exists_cons_of_ne_nil hs.1
  have hc : c.isAlpha = true := hs.2 c List.mem_cons_self
  have hdecimal : Ipv4.number? (c :: r) = digitsValue? 10 (c :: r) := by
    unfold Ipv4.number?
    split
    · next heq => cases heq
    · next heq =>
      cases heq
      cases hc
    · next heq =>
      cases heq
      cases hc
    · next heq =>
      cases heq
      cases hc
    · rfl
  rw [hdecimal, digitsValue?_eq, List.foldl_cons, addDigit_letter hc, foldl_addDigit_none]

theorem endsInNumber_word (hs : IsWord s) : Ipv4.endsInNumber (String.ofList s) = false := by
  have hparts : Ipv4.parts (String.ofList s) = [s] := by
    have hsplit : s.splitOn '.' = [s] := List.splitOn_eq_singleton (hs.not_mem rfl)
    simp [Ipv4.parts, hsplit, hs.1]
  have hdigits : s.all Char.isDigit = false := by
    obtain ⟨c, r, rfl⟩ := List.exists_cons_of_ne_nil hs.1
    have hc : c.isDigit = false :=
      of_isAlpha (P := fun c => c.isDigit = false) (by decide) (hs.2 c List.mem_cons_self)
    simp [hc]
  unfold Ipv4.endsInNumber
  rw [hparts]
  simp [hdigits, number?_word hs]

theorem specialHost?_word (hs : IsWord s) :
    specialHost? s = some (.name (String.ofList (small s))) := by
  have hname : String.ofList (small s) ≠ "" := by
    intro h
    exact hs.isSmallWord_small.1 (by simpa using congrArg String.toList h)
  have hbracket : s.head? ≠ some '[' := by
    intro h
    exact hs.not_mem rfl (List.mem_of_mem_head? h)
  unfold specialHost?
  rw [if_neg hbracket, decode_plain hs.percent_not_mem, Utf8.decode_encode]
  simp only [Option.bind_eq_bind, Option.bind_some, String.toList_ofList, hs.toAscii?, hname,
    endsInNumber_word hs.isSmallWord_small.isWord, Bool.false_eq_true, if_false]

end Name

section Authority

variable {s : List Char}

theorem splitUser_of_not_mem {a : List Char} (h : '@' ∉ a) : splitUser a = (none, a) := by
  have hall : ∀ c ∈ a.reverse, decide (c ≠ '@') = true :=
    fun c hc => decide_eq_true (ne_of_mem_of_not_mem (List.mem_reverse.mp hc) h)
  have htake : a.reverse.takeWhile (· ≠ '@') = a.reverse := List.takeWhile_eq_self_iff.mpr hall
  unfold splitUser
  rw [htake]
  simp

theorem splitHost_word (hs : ∀ c ∈ s, c.isAlpha = true) (r : List Char) :
    splitHost false (s ++ ':' :: r) = (s, ':' :: r) := by
  induction s with
  | nil => rfl
  | cons c s ih =>
    have hc : c.isAlpha = true := hs c List.mem_cons_self
    have hcolon : c ≠ ':' := ne_of_isAlpha rfl hc
    have hopen : c ≠ '[' := ne_of_isAlpha rfl hc
    have hclose : c ≠ ']' := ne_of_isAlpha rfl hc
    rw [List.cons_append, splitHost]
    simp [hcolon, hopen, hclose, ih fun d hd => hs d (List.mem_cons_of_mem _ hd)]

theorem port?_decimal {port : Nat} (hport : port ≤ 65535) (scheme : String) :
    port? scheme (':' :: Nat.toDigits 10 port) =
      some (if defaultPort? scheme = some port then none else some port, []) := by
  have hdigits : ∀ c ∈ Nat.toDigits 10 port, c.isDigit = true := fun c => isDigit_of_mem_decimal
  have htake : (Nat.toDigits 10 port).takeWhile Char.isDigit = Nat.toDigits 10 port :=
    List.takeWhile_eq_self_iff.mpr hdigits
  have hdrop : (Nat.toDigits 10 port).dropWhile Char.isDigit = [] :=
    List.dropWhile_eq_nil_iff.mpr hdigits
  simp only [port?, htake, hdrop, digitsValue?_decimal]
  simp [Nat.toDigits_ne_nil, Nat.not_lt.mpr hport]

def wordAuthority (s : List Char) (port : Nat) : Authority where
  username := ""
  password := ""
  host := some (.name (String.ofList (small s)))
  port := if port = 80 then none else some port

def wordText (s : List Char) (port : Nat) : List Char := s ++ ':' :: Nat.toDigits 10 port

theorem mem_wordText (hs : IsWord s) {port : Nat} {c : Char} (hc : c ∈ wordText s port) :
    c.isAlphanum = true ∨ c = ':' := by
  rcases List.mem_append.mp hc with hc | hc
  · exact Or.inl (Bool.or_eq_true_iff.mpr (Or.inl (hs.2 c hc)))
  · rcases List.mem_cons.mp hc with rfl | hc
    · exact Or.inr rfl
    · exact Or.inl (Bool.or_eq_true_iff.mpr (Or.inr (isDigit_of_mem_decimal hc)))

theorem wordText_plain (hs : IsWord s) {port : Nat} {c : Char} (hc : c ∈ wordText s port) :
    isSlash c = false ∧ isUnseen c = false := by
  rcases mem_wordText hs hc with h | rfl
  · exact of_isAlphanum (P := fun c => isSlash c = false ∧ isUnseen c = false) (by decide) h
  · decide

theorem authority?_word (hs : IsWord s) {port : Nat} (hport : port ≤ 65535) :
    authority? "http" false (wordText s port) = some (wordAuthority s port, []) := by
  have hat : '@' ∉ wordText s port := by
    intro hmem
    rcases mem_wordText hs hmem with h | h <;> exact absurd h (by decide)
  have huser : splitUser (wordText s port) = (none, wordText s port) := splitUser_of_not_mem hat
  have hhost : splitHost false (wordText s port) = (s, ':' :: Nat.toDigits 10 port) :=
    splitHost_word hs.2 _
  have hkind : Kind.ofScheme "http" = .special := by decide
  have hport : port? "http" (':' :: Nat.toDigits 10 port) =
      some (if port = 80 then none else some port, []) := by
    have hdefault : defaultPort? "http" = some 80 := by decide
    simp only [port?_decimal hport, hdefault, Option.some.injEq, eq_comm]
  unfold authority?
  simp only [huser, hhost, hport]
  simp [hkind, host?, specialHost?_word hs, splitAt, encodeUser, Percent.encode, wordAuthority]

end Authority

def IsRest (p : List Char) : Prop := ∀ c ∈ p.head?, c = '/'

instance (p : List Char) : Decidable (IsRest p) := Option.decidableForallMem p.head?

section Rest

variable {p : List Char}

theorem IsRest.cases (hp : IsRest p) : p = [] ∨ ∃ r, p = '/' :: r := by
  cases p with
  | nil => exact Or.inl rfl
  | cons c r =>
    cases hp c rfl
    exact Or.inr ⟨r, rfl⟩

theorem IsRest.of_starts {r : List Char} (hp : IsRest p) (h : r <+: p) : IsRest r := by
  intro c hc
  obtain ⟨r', rfl⟩ := List.head?_eq_some_iff.mp hc
  obtain ⟨t, rfl⟩ := h
  exact hp c rfl

theorem IsRest.visible (hp : IsRest p) : IsRest (visible p) := by
  rcases hp.cases with rfl | ⟨r, rfl⟩
  · exact hp
  · exact fun c hc => (Option.some.inj hc).symm

end Rest

section Word

variable {s p : List Char} {port : Nat}

def webMark : List Char := ['h', 't', 't', 'p', ':', '/', '/']

def webText (s : List Char) (port : Nat) : List Char := webMark ++ wordText s port

theorem withAuthority?_word (hs : IsWord s) (hport : port ≤ 65535) (hp : IsRest p) :
    withAuthority? "http" false (wordText s port ++ p) =
      some (wordAuthority s port, pathAfter true p) := by
  have hkind : Kind.ofScheme "http" = .special := by decide
  let isEnd (c : Char) : Bool := c = '/' || (decide (Kind.ofScheme "http" = .special) && c = '\\')
  have hstop : ∀ c ∈ p.head?, (!isEnd c) = false := by
    intro c hc
    cases hp c hc
    rfl
  have hword : ∀ c ∈ wordText s port, (!isEnd c) = true := by
    intro c hc
    have hplain : isSlash c = false := (wordText_plain hs hc).1
    simpa [isEnd, isSlash, hkind] using hplain
  have htake : (wordText s port ++ p).takeWhile (!isEnd ·) = wordText s port := by
    rw [takeWhile_stop hstop, List.takeWhile_eq_self_iff.mpr hword]
  have hdrop : (wordText s port ++ p).dropWhile (!isEnd ·) = p := by
    rw [dropWhile_stop hstop, List.dropWhile_eq_nil_iff.mpr hword, List.nil_append]
  refine Option.bind_eq_some_iff.mpr ⟨(wordAuthority s port, []), ?_, ?_⟩
  · rw [authority?_more hkind]
    exact htake.symm ▸ authority?_word hs hport
  · simp only [isEnd, hkind, decide_true] at hdrop ⊢
    rw [hdrop, List.nil_append]

theorem visible_wordText (hs : IsWord s) : visible (wordText s port) = wordText s port :=
  List.filter_eq_self.mpr fun c hc => by simp [(wordText_plain hs hc).2]

theorem visible_webText (hs : IsWord s) : visible (webText s port) = webText s port := by
  have hscheme : visible webMark = webMark := by decide
  calc visible (webText s port)
      = visible webMark ++ visible (wordText s port) := visible_append _ _
    _ = webText s port := congrArg₂ _ hscheme (visible_wordText hs)

theorem scheme?_webText (p : List Char) :
    scheme? (webText s port ++ p) = some ("http", ['/', '/'] ++ wordText s port ++ p) := by
  let r : List Char := ['/', '/'] ++ wordText s port ++ p
  have htext : webText s port ++ p = 'h' :: 't' :: 't' :: 'p' :: ':' :: r := rfl
  have hdrop : ('h' :: 't' :: 't' :: 'p' :: ':' :: r).dropWhile isSchemePart = ':' :: r := rfl
  have htake : ('h' :: 't' :: 't' :: 'p' :: ':' :: r).takeWhile isSchemePart =
      ['h', 't', 't', 'p'] := rfl
  have hscheme : String.ofList (['h', 't', 't', 'p'].map Char.toLower) = "http" := by decide
  rw [htext, scheme?_cons, hdrop, htake, hscheme, if_pos ⟨rfl, rfl⟩, List.tail_cons]

theorem located?_webText (hs : IsWord s) (hport : port ≤ 65535) (hp : IsRest p) :
    located? "http" (webText s port ++ p) =
      some (wordAuthority s port, pathAfter true (visible p)) := by
  have hcolon : ((webText s port ++ p).dropWhile (· ≠ ':')).tail =
      ['/', '/'] ++ wordText s port ++ p := rfl
  have hmarks : visible ['/', '/'] = ['/', '/'] := by decide
  have hvisible : visible (['/', '/'] ++ wordText s port ++ p) =
      ['/', '/'] ++ (wordText s port ++ visible p) := by
    rw [visible_append, visible_append, hmarks, visible_wordText hs, List.append_assoc]
  have hslashes : (['/', '/'] ++ (wordText s port ++ visible p)).dropWhile isSlash =
      wordText s port ++ visible p := by
    have hne : wordText s port ≠ [] := by simp [wordText]
    obtain ⟨c, r, hword⟩ := List.exists_cons_of_ne_nil hne
    have hc : c ∈ wordText s port := hword ▸ List.mem_cons_self
    have hfirst : isSlash c = false := (wordText_plain hs hc).1
    have hstart : ['/', '/'] ++ (wordText s port ++ visible p) =
        '/' :: '/' :: c :: (r ++ visible p) := by
      rw [hword]
      rfl
    rw [hstart, List.dropWhile_cons_of_pos rfl, List.dropWhile_cons_of_pos rfl,
      List.dropWhile_cons_of_neg (by simp [hfirst]), hword]
    rfl
  rw [located?, hcolon, hvisible, hslashes, withAuthority?_word hs hport hp.visible]

theorem mem_webText (hs : IsWord s) {c : Char} (hc : c ∈ webText s port) :
    c.isAlphanum = true ∨ c = ':' ∨ c = '/' := by
  rcases List.mem_append.mp hc with hc | hc
  · have hscheme : ∀ c ∈ webMark, c.isAlphanum = true ∨ c = ':' ∨ c = '/' := by simp [webMark]
    exact hscheme c hc
  · rcases mem_wordText hs hc with h | h
    · exact Or.inl h
    · exact Or.inr (Or.inl h)

theorem webText_keeps (hs : IsWord s) {c : Char} (hc : c ∈ webText s port) :
    isBlank c = false ∧ isOuter c = false ∧ c ≠ '?' ∧ c ≠ '#' := by
  rcases mem_webText hs hc with h | rfl | rfl
  · exact of_isAlphanum
      (P := fun c => isBlank c = false ∧ isOuter c = false ∧ c ≠ '?' ∧ c ≠ '#') (by decide) h
  · decide
  · decide

theorem trim_webText {blank : Char → Bool} (h : ∀ c ∈ webText s port, blank c = false)
    (p : List Char) : trim blank (webText s port ++ p) = webText s port ++ p.rdropWhile blank := by
  have hall : ∀ c ∈ webText s port, ¬ blank c = true := fun c hc => by simp [h c hc]
  obtain ⟨c, r, htext⟩ : ∃ c r, webText s port = c :: r := ⟨_, _, rfl⟩
  have hends : ∃ c ∈ (webText s port).getLast?, blank c = false := by
    have hne : webText s port ≠ [] := htext ▸ List.cons_ne_nil c r
    exact ⟨_, List.getLast?_eq_some_getLast hne, h _ (List.getLast_mem hne)⟩
  have hdrop : (webText s port).dropWhile blank = webText s port := by
    rw [htext]
    exact List.dropWhile_cons_of_neg (hall c (htext ▸ List.mem_cons_self))
  rw [trim_front hends, hdrop]

theorem read?_webText (hs : IsWord s) (hport : port ≤ 65535) (hp : IsRest p) :
    ∃ path query fragment, Address.read? (trimBlank (String.ofList (webText s port ++ p))) =
      some ⟨"http", some (wordAuthority s port), path, query, fragment⟩ := by
  have hblank : trimBlank (String.ofList (webText s port ++ p)) =
      String.ofList (webText s port ++ p.rdropWhile isBlank) := by
    rw [trimBlank, String.toList_ofList,
      trim_webText fun c hc => (webText_keeps hs hc).1]
  have hrest : IsRest ((p.rdropWhile isBlank).rdropWhile isOuter) :=
    (hp.of_starts (List.rdropWhile_prefix _ p)).of_starts (List.rdropWhile_prefix _ _)
  have houter : trim isOuter (webText s port ++ p.rdropWhile isBlank) =
      webText s port ++ (p.rdropWhile isBlank).rdropWhile isOuter :=
    trim_webText (fun c hc => (webText_keeps hs hc).2.1) _
  obtain ⟨g, t, hsplit, hg, ht⟩ := exists_front ((p.rdropWhile isBlank).rdropWhile isOuter)
  rw [hsplit] at hrest houter
  have hgrest : IsRest g := hrest.of_starts (List.prefix_append g t)
  have hstart : IsUnmarked (webText s port) :=
    ⟨fun h => (webText_keeps hs h).2.2.1 rfl, fun h => (webText_keeps hs h).2.2.2 rfl⟩
  have hscheme : scheme? (visible (webText s port ++ g)) =
      some ("http", ['/', '/'] ++ wordText s port ++ visible g) := by
    rw [visible_append, visible_webText hs, scheme?_webText]
  have htrim : trim isOuter (String.ofList (webText s port ++ p.rdropWhile isBlank)).toList =
      webText s port ++ g ++ t := by
    rw [String.toList_ofList, houter, List.append_assoc]
  obtain ⟨query, fragment, hread⟩ :=
    read?_front htrim (hstart.append hg) ht hscheme (by decide)
  refine ⟨pathAfter true (visible g), query, fragment, ?_⟩
  rw [hblank, hread, located?_webText hs hport hgrest]
  rfl

end Word

end BearerCheck.Url
