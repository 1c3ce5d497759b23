import BearerCheck.Proofs.Text.Trim
import BearerCheck.Proofs.Url.Path

/-!
What stands in a URL in front of its query and its fragment. For the schemes of the web it alone
decides about the authority and the path, and whether there is a URL at all.
-/

namespace BearerCheck.Url

open Text Segments

def IsUnmarked (s : List Char) : Prop := '?' ∉ s ∧ '#' ∉ s

def IsTail (t : List Char) : Prop := ∀ c ∈ t.head?, c = '?' ∨ c = '#'

def isOuter (c : Char) : Bool := c.toNat ≤ 0x20

theorem IsUnmarked.append {s t : List Char} (hs : IsUnmarked s) (ht : IsUnmarked t) :
    IsUnmarked (s ++ t) :=
  ⟨fun h => (List.mem_append.mp h).elim hs.1 ht.1, fun h => (List.mem_append.mp h).elim hs.2 ht.2⟩

theorem IsTail.cases {t : List Char} (ht : IsTail t) :
    t = [] ∨ (∃ r, t = '?' :: r) ∨ ∃ r, t = '#' :: r := by
  cases t with
  | nil => exact Or.inl rfl
  | cons c r =>
    rcases ht c rfl with rfl | rfl
    · exact Or.inr (Or.inl ⟨r, rfl⟩)
    · exact Or.inr (Or.inr ⟨r, rfl⟩)

section Trimmed

variable {t : List Char}

theorem IsTail.visible (ht : IsTail t) : IsTail (visible t) := by
  rcases ht.cases with rfl | ⟨r, rfl⟩ | ⟨r, rfl⟩
  · exact ht
  · exact fun c hc => Or.inl (Option.some.inj hc).symm
  · exact fun c hc => Or.inr (Option.some.inj hc).symm

theorem IsTail.rdropWhile (ht : IsTail t) (p : Char → Bool) : IsTail (t.rdropWhile p) := by
  intro c hc
  obtain ⟨r, hr⟩ := List.head?_eq_some_iff.mp hc
  obtain ⟨s, hs⟩ := List.rdropWhile_prefix p t
  refine ht c ?_
  rw [← hs, hr]
  rfl

end Trimmed

section Scheme

def isSchemePart (c : Char) : Bool := c.isAlphanum || c = '+' || c = '-' || c = '.'

theorem scheme?_cons (c : Char) (r : List Char) :
    scheme? (c :: r) =
      if ((c :: r).dropWhile isSchemePart).head? = some ':' ∧ c.isAlpha then
        some (String.ofList (((c :: r).takeWhile isSchemePart).map Char.toLower),
          ((c :: r).dropWhile isSchemePart).tail)
      else none := by
  have hpart : (fun c : Char => c.isAlphanum || c = '+' || c = '-' || c = '.') = isSchemePart := rfl
  unfold scheme?
  simp only [hpart]
  cases (c :: r).dropWhile isSchemePart with
  | nil => rfl
  | cons b rest =>
    by_cases hb : b = ':'
    · subst hb
      simp
    · rw [if_neg fun h => hb (Option.some.inj h.1)]
      split
      · next heq =>
        cases heq
        exact absurd rfl hb
      · rfl

def EndsScheme (t : List Char) : Prop := ∀ c ∈ t.head?, isSchemePart c = false ∧ c ≠ ':'

theorem IsTail.endsScheme {t : List Char} (ht : IsTail t) : EndsScheme t := by
  intro c hc
  rcases ht c hc with rfl | rfl <;> decide

theorem scheme?_endsScheme {t : List Char} (ht : EndsScheme t) (s : List Char) :
    scheme? (s ++ t) = (scheme? s).map fun x => (x.1, x.2 ++ t) := by
  have hhead : t.head? ≠ some ':' := fun h => (ht ':' h).2 rfl
  have hstop : ∀ c ∈ t.head?, isSchemePart c = false := fun c hc => (ht c hc).1
  cases s with
  | nil =>
    cases t with
    | nil => rfl
    | cons c t =>
      rw [List.nil_append, scheme?_cons, List.dropWhile_cons_of_neg (by simp [hstop c rfl]),
        if_neg fun h => hhead h.1]
      rfl
  | cons c r =>
    have htake' := takeWhile_stop hstop (c :: r)
    have hdrop' := dropWhile_stop hstop (c :: r)
    rw [List.cons_append] at htake' hdrop' ⊢
    rw [scheme?_cons, scheme?_cons, htake', hdrop']
    cases (c :: r).dropWhile isSchemePart with
    | nil => simp [hhead]
    | cons b u =>
      rw [List.cons_append, List.head?_cons, List.head?_cons, List.tail_cons, List.tail_cons]
      by_cases h : some b = some ':' ∧ c.isAlpha
      · rw [if_pos h, if_pos h]
        rfl
      · rw [if_neg h, if_neg h]
        rfl

theorem colon_of_scheme? {s rest : List Char} {scheme : String}
    (h : scheme? s = some (scheme, rest)) : ':' ∈ s := by
  cases s with
  | nil => cases h
  | cons c r =>
    rw [scheme?_cons] at h
    split_ifs at h with hcolon
    obtain ⟨u, hu⟩ := List.head?_eq_some_iff.mp hcolon.1
    exact (List.dropWhile_sublist isSchemePart).subset (hu ▸ List.mem_cons_self)

end Scheme

theorem specialHost?_nil : specialHost? [] = none := by decide +kernel

theorem authority?_more {scheme : String} (h : Kind.ofScheme scheme = .special) (more : Bool)
    (s : List Char) : authority? scheme more s = authority? scheme false s := by
  unfold authority?
  by_cases hbehind : (splitUser s).2 = []
  · simp [h, hbehind, splitHost, host?, specialHost?_nil]
  · simp only [hbehind, false_and, and_false, if_false]

theorem withAuthority?_more {scheme : String} (h : Kind.ofScheme scheme = .special) (more : Bool)
    (s : List Char) : withAuthority? scheme more s = withAuthority? scheme false s := by
  unfold withAuthority?
  simp only [authority?_more h]

def front (s : List Char) : List Char := (splitAt '?' (splitAt '#' s).1).1

theorem front_tail {f t : List Char} (hf : IsUnmarked f) (ht : IsTail t) : front (f ++ t) = f := by
  have hquery : ∀ c ∈ f, decide (c ≠ '?') = true :=
    fun c hc => decide_eq_true (ne_of_mem_of_not_mem hc hf.1)
  have hfragment : ∀ c ∈ f, decide (c ≠ '#') = true :=
    fun c hc => decide_eq_true (ne_of_mem_of_not_mem hc hf.2)
  have hrest : (t.takeWhile (· ≠ '#')).takeWhile (· ≠ '?') = [] := by
    rcases ht.cases with rfl | ⟨r, rfl⟩ | ⟨r, rfl⟩ <;> rfl
  rw [front, splitAt, splitAt, List.takeWhile_append_of_pos hfragment,
    List.takeWhile_append_of_pos hquery, hrest, List.append_nil]

theorem behind_colon {f : List Char} (hf : ':' ∈ f) (t : List Char) :
    ((f ++ t).dropWhile (· ≠ ':')).tail = (f.dropWhile (· ≠ ':')).tail ++ t := by
  have hne : f.dropWhile (· ≠ ':') ≠ [] := by
    intro h
    simpa using List.dropWhile_eq_nil_iff.mp h ':' hf
  rw [List.dropWhile_append, if_neg (by simpa using hne), List.tail_append_of_ne_nil hne]

theorem IsUnmarked.behind_colon {f : List Char} (hf : IsUnmarked f) :
    IsUnmarked (f.dropWhile (· ≠ ':')).tail := by
  have hsub : ((f.dropWhile (· ≠ ':')).tail).Sublist f :=
    (List.tail_sublist _).trans (List.dropWhile_sublist _)
  exact ⟨fun h => hf.1 (hsub.subset h), fun h => hf.2 (hsub.subset h)⟩

def located? (scheme : String) (f : List Char) : Option (Authority × Path) :=
  withAuthority? scheme false ((visible (f.dropWhile (· ≠ ':')).tail).dropWhile isSlash)

section Reading

variable {s : String} {f t : List Char}

theorem scheme_of_read? {u : Address} (h : Address.read? s = some u) :
    ∃ rest, scheme? (visible (trim isOuter s.toList)) = some (u.scheme, rest) := by
  obtain ⟨⟨scheme, rest⟩, hscheme, h⟩ := Option.bind_eq_some_iff.mp h
  have houter : (fun c : Char => decide (c.toNat ≤ 0x20)) = isOuter := rfl
  rw [houter] at hscheme
  refine ⟨rest, hscheme.trans ?_⟩
  dsimp only at h
  split at h
  · obtain ⟨_, _, h⟩ := Option.bind_eq_some_iff.mp h
    cases h
    rfl
  · obtain ⟨_, _, h⟩ := Option.bind_eq_some_iff.mp h
    cases h
    rfl
  · obtain ⟨_, _, h⟩ := Option.bind_eq_some_iff.mp h
    cases h
    rfl
  · cases h
    rfl
  · cases h
    rfl

theorem read?_front {scheme : String} {rest : List Char} (htrim : trim isOuter s.toList = f ++ t)
    (hf : IsUnmarked f) (ht : IsTail t) (hscheme : scheme? (visible f) = some (scheme, rest))
    (hkind : Kind.ofScheme scheme = .special) :
    ∃ query fragment, Address.read? s =
      (located? scheme f).map fun x => ⟨scheme, some x.1, x.2, query, fragment⟩ := by
  have houter : (fun c : Char => decide (c.toNat ≤ 0x20)) = isOuter := rfl
  have hwhole : scheme? (visible (f ++ t)) = some (scheme, rest ++ visible t) := by
    rw [visible_append, scheme?_endsScheme ht.visible.endsScheme, hscheme]
    rfl
  have hcolon : ':' ∈ f := (List.filter_sublist).subset (colon_of_scheme? hscheme)
  have hfront : front ((f ++ t).dropWhile (· ≠ ':')).tail = (f.dropWhile (· ≠ ':')).tail := by
    rw [behind_colon hcolon, front_tail hf.behind_colon ht]
  unfold front at hfront
  unfold Address.read?
  rw [houter, htrim]
  simp only [hwhole, hkind, Option.bind_eq_bind, Option.bind_some, withAuthority?_more hkind,
    hfront]
  unfold located?
  -- only now is the tail looked at, for the query and the fragment
  generalize withAuthority? scheme false _ = x
  cases x with
  | none => exact ⟨none, none, rfl⟩
  | some x => exact ⟨_, _, rfl⟩

theorem scheme?_front (ht : IsTail t) {scheme : String} {rest : List Char}
    (h : scheme? (visible (f ++ t)) = some (scheme, rest)) :
    ∃ rest', scheme? (visible f) = some (scheme, rest') := by
  rw [visible_append, scheme?_endsScheme ht.visible.endsScheme] at h
  obtain ⟨x, hx, he⟩ := Option.map_eq_some_iff.mp h
  cases he
  exact ⟨x.2, hx⟩

theorem located?_of_read? {u : Address} (htrim : trim isOuter s.toList = f ++ t)
    (hf : IsUnmarked f) (ht : IsTail t) (h : Address.read? s = some u) (hkind : u.kind = .special) :
    (∃ rest, scheme? (visible f) = some (u.scheme, rest)) ∧
      ∃ a, u.authority = some a ∧ located? u.scheme f = some (a, u.path) := by
  obtain ⟨rest, hscheme⟩ := scheme_of_read? h
  rw [htrim] at hscheme
  obtain ⟨rest', hscheme'⟩ := scheme?_front ht hscheme
  obtain ⟨query, fragment, hread⟩ := read?_front htrim hf ht hscheme' hkind
  rw [h] at hread
  obtain ⟨⟨a, path⟩, hlocated, he⟩ := Option.map_eq_some_iff.mp hread.symm
  refine ⟨⟨rest', hscheme'⟩, a, ?_, ?_⟩
  · rw [← he]
  · rw [← he]
    rw [← he] at hlocated
    exact hlocated

end Reading

section Shape

theorem exists_front (cs : List Char) : ∃ f t, cs = f ++ t ∧ IsUnmarked f ∧ IsTail t := by
  let isMark (c : Char) : Bool := c = '?' || c = '#'
  refine ⟨cs.takeWhile (!isMark ·), cs.dropWhile (!isMark ·), ?_, ⟨fun h => ?_, fun h => ?_⟩, ?_⟩
  · exact List.takeWhile_append_dropWhile.symm
  · simpa [isMark] using List.mem_takeWhile_imp h
  · simpa [isMark] using List.mem_takeWhile_imp h
  · intro c hc
    have hmark := List.head?_dropWhile_not (fun c => !isMark c) cs
    rw [hc] at hmark
    have hmark : isMark c = true := by simpa using hmark
    simpa [isMark] using hmark

theorem authority?_host {scheme : String} (hkind : Kind.ofScheme scheme = .special) {more : Bool}
    {s left : List Char} {a : Authority} (h : authority? scheme more s = some (a, left)) :
    ∃ host, a.host = some host := by
  unfold authority? at h
  obtain ⟨host, hhost, h⟩ := Option.bind_eq_some_iff.mp h
  obtain ⟨⟨port, rest⟩, _, h⟩ := Option.bind_eq_some_iff.mp h
  simp only [hkind, decide_true, host?, if_true] at hhost
  obtain ⟨special, _, rfl⟩ := Option.map_eq_some_iff.mp hhost
  dsimp only at h
  split_ifs at h
  cases h
  exact ⟨special, rfl⟩

theorem located?_shape {scheme : String} (hkind : Kind.ofScheme scheme = .special) {f : List Char}
    {a : Authority} {path : Path} (h : located? scheme f = some (a, path)) :
    (∃ host, a.host = some host) ∧
      ∃ p, path = .segments false p ∧ p.toList.head? = some '/' := by
  obtain ⟨⟨a', left⟩, hauthority, he⟩ := Option.bind_eq_some_iff.mp h
  cases he
  refine ⟨authority?_host hkind hauthority, ?_⟩
  simp only [hkind, decide_true]
  exact pathAfter_starts _

end Shape

theorem shape_of_read? {s : String} {u : Address} (h : Address.read? s = some u)
    (hkind : u.kind = .special) : ∃ a host p, u.authority = some a ∧ a.host = some host ∧
      u.path = .segments false p ∧ p.toList.head? = some '/' := by
  obtain ⟨f, t, htrim, hf, ht⟩ := exists_front (trim isOuter s.toList)
  obtain ⟨_, a, ha, hlocated⟩ := located?_of_read? htrim hf ht h hkind
  obtain ⟨⟨host, hhost⟩, p, hpath, hp⟩ := located?_shape hkind hlocated
  exact ⟨a, host, p, ha, hhost, hpath, hp⟩

section Slash

variable {scheme : String} {a : Authority} {p : String}

theorem withAuthority?_nil (hkind : Kind.ofScheme scheme = .special) :
    withAuthority? scheme false [] = none := by
  unfold withAuthority? authority?
  simp [hkind, splitUser, splitHost, host?, specialHost?_nil]

theorem withAuthority?_slash (hkind : Kind.ofScheme scheme = .special) {s : List Char}
    (h : withAuthority? scheme false s = some (a, .segments false p))
    (hp : p.toList.getLast? ≠ some '/') :
    withAuthority? scheme false (s ++ ['/']) = some (a, .segments false (p ++ "/")) := by
  obtain ⟨⟨a', left⟩, hauthority, he⟩ := Option.bind_eq_some_iff.mp h
  simp only [Option.some.injEq, Prod.mk.injEq, hkind, decide_true] at he
  obtain ⟨rfl, hpath⟩ := he
  have hslash := pathAfter_slash hpath hp
  let isEnd (c : Char) : Bool := c = '/' || (decide (Kind.ofScheme scheme = .special) && c = '\\')
  have hstop : ∀ c ∈ (['/'] : List Char).head?, (!isEnd c) = false := by
    intro c hc
    cases hc
    rfl
  have htake : (s ++ ['/']).takeWhile (!isEnd ·) = s.takeWhile (!isEnd ·) := takeWhile_stop hstop s
  have hdrop : (s ++ ['/']).dropWhile (!isEnd ·) = s.dropWhile (!isEnd ·) ++ ['/'] :=
    dropWhile_stop hstop s
  refine Option.bind_eq_some_iff.mpr ⟨(a', left), ?_, ?_⟩
  · rw [authority?_more hkind] at hauthority ⊢
    exact htake ▸ hauthority
  · simp only [isEnd, hkind, decide_true] at hdrop ⊢
    rw [hdrop, ← List.append_assoc, hslash]

theorem located?_slash (hkind : Kind.ofScheme scheme = .special) {f : List Char} (hf : ':' ∈ f)
    (h : located? scheme f = some (a, .segments false p)) (hp : p.toList.getLast? ≠ some '/') :
    located? scheme (f ++ ['/']) = some (a, .segments false (p ++ "/")) := by
  have hslash : visible ['/'] = ['/'] := rfl
  unfold located? at h ⊢
  rw [behind_colon hf, visible_append, hslash, List.dropWhile_append]
  split_ifs with hempty
  · rw [List.isEmpty_iff.mp hempty, withAuthority?_nil hkind] at h
    cases h
  · exact withAuthority?_slash hkind h hp

end Slash

structure IsFront (f : List Char) : Prop where
  unmarked : IsUnmarked f
  ends : ∃ c ∈ f.getLast?, isOuter c = false

namespace IsFront

variable {f t t' : List Char} {u : Address}

theorem trimmed (hf : IsFront f) (ht : IsTail t) :
    ∃ t', IsTail t' ∧ trim isOuter (String.ofList (f ++ t)).toList = f.dropWhile isOuter ++ t' := by
  refine ⟨_, ht.rdropWhile isOuter, ?_⟩
  rw [String.toList_ofList]
  exact trim_front hf.ends t

theorem unmarked_dropWhile (hf : IsFront f) : IsUnmarked (f.dropWhile isOuter) :=
  ⟨fun h => hf.unmarked.1 ((List.dropWhile_sublist _).subset h),
    fun h => hf.unmarked.2 ((List.dropWhile_sublist _).subset h)⟩

theorem append_slash (hf : IsFront f) : IsFront (f ++ ['/']) where
  unmarked := hf.unmarked.append ⟨by decide, by decide⟩
  ends := ⟨'/', by simp, by decide⟩

theorem read?_tail (hf : IsFront f) (ht : IsTail t) (ht' : IsTail t')
    (h : Address.read? (String.ofList (f ++ t)) = some u) (hkind : u.kind = .special) :
    ∃ query fragment, Address.read? (String.ofList (f ++ t')) =
      some { u with query := query, fragment := fragment } := by
  obtain ⟨r, hr, htrim⟩ := hf.trimmed ht
  obtain ⟨r', hr', htrim'⟩ := hf.trimmed ht'
  obtain ⟨⟨rest, hscheme⟩, a, ha, hlocated⟩ :=
    located?_of_read? htrim hf.unmarked_dropWhile hr h hkind
  obtain ⟨query, fragment, hread⟩ :=
    read?_front htrim' hf.unmarked_dropWhile hr' hscheme hkind
  refine ⟨query, fragment, ?_⟩
  rw [hread, hlocated]
  simp [ha]

theorem read?_slash (hf : IsFront f) (ht : IsTail t) (ht' : IsTail t')
    (h : Address.read? (String.ofList (f ++ t)) = some u) (hkind : u.kind = .special) {p : String}
    (hpath : u.path = .segments false p) (hp : p.toList.getLast? ≠ some '/') :
    ∃ query fragment, Address.read? (String.ofList (f ++ ['/'] ++ t')) =
      some { u with path := .segments false (p ++ "/"), query := query, fragment := fragment } := by
  obtain ⟨r, hr, htrim⟩ := hf.trimmed ht
  obtain ⟨r', hr', htrim'⟩ := hf.append_slash.trimmed ht'
  obtain ⟨⟨rest, hscheme⟩, a, ha, hlocated⟩ :=
    located?_of_read? htrim hf.unmarked_dropWhile hr h hkind
  have hcolon : ':' ∈ f.dropWhile isOuter :=
    List.filter_sublist.subset (colon_of_scheme? hscheme)
  have hfront : (f ++ ['/']).dropWhile isOuter = f.dropWhile isOuter ++ ['/'] := by
    rw [List.dropWhile_append, if_neg]
    simpa using List.ne_nil_of_mem hcolon
  have hslash : visible ['/'] = ['/'] := rfl
  have hends : EndsScheme ['/'] := by
    intro c hc
    cases hc
    decide
  have hscheme' : scheme? (visible (f.dropWhile isOuter ++ ['/'])) =
      some (u.scheme, rest ++ ['/']) := by
    rw [visible_append, hslash, scheme?_endsScheme hends, hscheme]
    rfl
  rw [hpath] at hlocated
  rw [hfront] at htrim'
  obtain ⟨query, fragment, hread⟩ := read?_front htrim'
    (hfront ▸ hf.append_slash.unmarked_dropWhile) hr' hscheme' hkind
  refine ⟨query, fragment, ?_⟩
  rw [hread, located?_slash hkind hcolon hlocated hp]
  simp [ha]

end IsFront

end BearerCheck.Url
