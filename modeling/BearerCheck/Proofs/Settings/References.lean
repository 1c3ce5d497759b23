import BearerCheck.Proofs.Outcome
import BearerCheck.Settings.Loading
import Mathlib.Data.List.TakeWhile

namespace BearerCheck

/-- A variable that is not set, or set to bytes that are no text. -/
def Environment.Lacks (e : Environment) (name : String) : Prop :=
  e name = none ∨ ∃ bytes, e name = some bytes ∧ Text.Utf8.decode bytes = none

theorem Environment.lacks_iff (e : Environment) (name : String) :
    e.Lacks name ↔ e.text? name = none := by
  unfold Lacks text?
  cases e name <;> simp

namespace Reference

variable {e : Environment} {name : List Char}

def IsName : List Char → Prop
  | [] => False
  | c :: r => startsName c = true ∧ ∀ d ∈ r, continuesName d = true

abbrev write (name : List Char) : List Char := (Piece.reference name).write

def Refers (text name : List Char) : Prop := IsName name ∧ write name <:+: text

/-- The second text is the first with its references replaced by what the variables hold. Nothing
else is changed, and nothing that was put in is looked at again. -/
inductive Replaced (e : Environment) : List Char → List Char → Prop
  | unchanged {t : List Char} : (∀ name, ¬ Refers t name) → Replaced e t t
  | value {before after before' after' name : List Char} {text : String} :
      IsName name → e.text? (String.ofList name) = some text → Replaced e before before' →
        Replaced e after after' →
          Replaced e (before ++ write name ++ after) (before' ++ text.toList ++ after')

theorem name?_eq_some (t : List Char) :
    name? t = some name ↔ IsName name ∧ ∃ rest, t = write name ++ rest := by
  constructor
  · intro h
    unfold name? at h
    split at h
    · next c r =>
      split at h
      · next hc =>
        obtain ⟨hstart, hclose⟩ := hc
        cases h
        obtain ⟨rest, hrest⟩ := List.head?_eq_some_iff.mp hclose
        refine ⟨⟨hstart, fun d hd => List.mem_takeWhile_imp hd⟩, rest, ?_⟩
        have hr := List.takeWhile_append_dropWhile (p := continuesName) (l := r)
        rw [hrest] at hr
        simp [Piece.write, hr]
      · cases h
    · cases h
  · rintro ⟨hname, rest, rfl⟩
    cases name with
    | nil => exact hname.elim
    | cons c r =>
      obtain ⟨hstart, hr⟩ := hname
      have hbrace : continuesName '\x7d' = false := by decide
      have htake : (r ++ '\x7d' :: rest).takeWhile continuesName = r := by
        rw [List.takeWhile_append_of_pos hr, List.takeWhile_cons_of_neg (by simp [hbrace]),
          List.append_nil]
      have hdrop : (r ++ '\x7d' :: rest).dropWhile continuesName = '\x7d' :: rest := by
        rw [List.dropWhile_append_of_pos hr, List.dropWhile_cons_of_neg (by simp [hbrace])]
      simp [Piece.write, name?, hstart, htake, hdrop]

theorem dollar_not_mem (hname : IsName name) : '$' ∉ '\x7b' :: (name ++ ['\x7d']) := by
  have hdollar : startsName '$' = false ∧ continuesName '$' = false := by decide
  cases name with
  | nil => exact hname.elim
  | cons c r =>
    obtain ⟨hstart, hr⟩ := hname
    intro hmem
    simp only [List.mem_cons, List.cons_append, List.mem_append, List.not_mem_nil, or_false] at hmem
    rcases hmem with h | h | h | h
    · exact absurd h (by decide)
    · simp [← h, hdollar.1] at hstart
    · simpa [hdollar.2] using hr _ h
    · exact absurd h (by decide)

theorem piecesFrom_length (t r : List Char) : piecesFrom t.length (t ++ r) = pieces r := by
  induction t with
  | nil => rfl
  | cons c t ih => exact ih

theorem pieces_reference (hname : IsName name) (after : List Char) :
    pieces (write name ++ after) = .reference name :: pieces after := by
  have hread : name? (write name ++ after) = some name :=
    (name?_eq_some _).mpr ⟨hname, after, rfl⟩
  have hskip := piecesFrom_length ('\x7b' :: (name ++ ['\x7d'])) after
  simp only [List.length_cons, List.length_append, List.length_nil] at hskip
  simp only [Piece.write, List.cons_append] at hread ⊢
  rw [pieces, piecesFrom, hread]
  exact congrArg _ hskip

theorem name?_append {before : List Char} (hbefore : before ≠ []) (hnone : name? before = none)
    (after : List Char) : name? (before ++ (write name ++ after)) = none := by
  refine Option.eq_none_iff_forall_ne_some.mpr fun m hm => ?_
  obtain ⟨hname, rest, he⟩ := (name?_eq_some _).mp hm
  rcases List.append_eq_append_iff.mp he with ⟨mid, hwrite, hmid⟩ | ⟨mid, hwrite, -⟩
  · -- the reference to `m` would hold the dollar sign of the one that comes after `before`
    obtain ⟨c, before, rfl⟩ := List.exists_cons_of_ne_nil hbefore
    cases mid with
    | nil => simp [(name?_eq_some _).mpr ⟨hname, [], by simpa using hwrite.symm⟩] at hnone
    | cons d mid =>
      simp only [Piece.write, List.cons_append, List.cons.injEq] at hwrite hmid
      refine dollar_not_mem hname ?_
      rw [hwrite.2, hmid.1]
      simp
  · simp [(name?_eq_some _).mpr ⟨hname, mid, hwrite⟩] at hnone

theorem piecesFrom_append (hname : IsName name) (after : List Char) :
    ∀ (before : List Char) (skip : Nat), skip ≤ before.length →
      piecesFrom skip (before ++ (write name ++ after)) =
        piecesFrom skip before ++ .reference name :: pieces after
  | [], 0, _ => pieces_reference hname after
  | _ :: before, skip + 1, h => piecesFrom_append hname after before skip (Nat.le_of_succ_le_succ h)
  | c :: before, 0, _ => by
    cases hread : name? (c :: before) with
    | none =>
      have hnone : name? (c :: (before ++ (write name ++ after))) = none :=
        name?_append (List.cons_ne_nil c before) hread after
      have hrest := piecesFrom_append hname after before 0 (Nat.zero_le _)
      simp only [List.cons_append, piecesFrom, hread, hnone, hrest]
    | some m =>
      obtain ⟨hm, rest, he⟩ := (name?_eq_some _).mp hread
      have hsome : name? (c :: (before ++ (write name ++ after))) = some m := by
        refine (name?_eq_some _).mpr ⟨hm, rest ++ (write name ++ after), ?_⟩
        rw [← List.cons_append, he, List.append_assoc]
      have hlength : m.length + 2 ≤ before.length := by
        have hl := congrArg List.length he
        simp [Piece.write] at hl
        omega
      have hrest := piecesFrom_append hname after before (m.length + 2) hlength
      simp only [List.cons_append, piecesFrom, hread, hsome, hrest]

theorem pieces_append (hname : IsName name) (before after : List Char) :
    pieces (before ++ write name ++ after) = pieces before ++ .reference name :: pieces after := by
  rw [List.append_assoc]
  exact piecesFrom_append hname after before 0 (Nat.zero_le _)

theorem pieces_of_not_refers {t : List Char} (h : ∀ name, ¬ Refers t name) :
    pieces t = t.map .char := by
  induction t with
  | nil => rfl
  | cons c t ih =>
    have hnone : name? (c :: t) = none := by
      refine Option.eq_none_iff_forall_ne_some.mpr fun m hm => ?_
      obtain ⟨hname, rest, he⟩ := (name?_eq_some _).mp hm
      exact h m ⟨hname, [], rest, by rw [he]; rfl⟩
    have hrest := ih fun name hr => h name ⟨hr.1, hr.2.trans (List.suffix_cons c t).isInfix⟩
    rw [pieces] at hrest ⊢
    simp only [piecesFrom, hnone, hrest, List.map_cons]

theorem valueOf_append (ps qs : List Piece) :
    valueOf e (ps ++ qs) = valueOf e ps >>= fun s => (valueOf e qs).map (s ++ ·) := by
  induction ps with
  | nil =>
    simp only [valueOf, List.nil_append, bind, Except.bind]
    cases valueOf e qs <;> rfl
  | cons p ps ih =>
    simp only [List.cons_append, valueOf, ih, bind, Except.bind]
    cases p.value e with
    | error n => rfl
    | ok s =>
      cases valueOf e ps with
      | error n => rfl
      | ok t => cases valueOf e qs <;> simp [Except.map, pure, Except.pure]

theorem valueOf_chars (t : List Char) : valueOf e (t.map .char) = .ok t := by
  induction t with
  | nil => rfl
  | cons c t ih => simp [valueOf, Piece.value, ih, bind, Except.bind, pure, Except.pure]

theorem valueOf_reference (before after : List Char) (hname : IsName name) :
    valueOf e (pieces (before ++ write name ++ after)) =
      valueOf e (pieces before) >>= fun s =>
        (Piece.reference name).value e >>= fun v =>
          (valueOf e (pieces after)).map fun t => s ++ v ++ t := by
  rw [pieces_append hname, valueOf_append]
  cases valueOf e (pieces before) with
  | error n => rfl
  | ok s =>
    simp only [valueOf, bind, Except.bind]
    cases (Piece.reference name).value e with
    | error n => rfl
    | ok v => cases valueOf e (pieces after) <;> simp [Except.map, pure, Except.pure]

theorem Replaced.valueOf {t out : List Char} (h : Replaced e t out) :
    valueOf e (pieces t) = .ok out := by
  induction h with
  | unchanged h => rw [pieces_of_not_refers h, valueOf_chars]
  | @value before after before' after' name text hname htext _ _ ih ih' =>
    rw [valueOf_reference before after hname, ih, ih']
    simp [Piece.value, htext, bind, Except.bind, Except.map]

structure FirstLacking (e : Environment) (t name : List Char) : Prop where
  isName : IsName name
  lacks : e.Lacks (String.ofList name)
  split : ∃ before after, t = before ++ write name ++ after ∧ ∃ out, Replaced e before out

theorem FirstLacking.valueOf {t : List Char} (h : FirstLacking e t name) :
    valueOf e (pieces t) = .error (String.ofList name) := by
  obtain ⟨before, after, rfl, out, hout⟩ := h.split
  rw [valueOf_reference before after h.isName, hout.valueOf]
  simp [Piece.value, (e.lacks_iff _).mp h.lacks, bind, Except.bind]

theorem length_write (name : List Char) : (write name).length = name.length + 3 := by
  simp [Piece.write]

theorem replaced_or_lacking (e : Environment) (t : List Char) :
    (∃ out, Replaced e t out) ∨ ∃ name, FirstLacking e t name := by
  -- a reference cuts the text in two, and both parts are shorter
  induction hn : t.length using Nat.strongRecOn generalizing t with
  | ind n ih =>
    by_cases hrefers : ∃ name, Refers t name
    · obtain ⟨name, hname, before, after, rfl⟩ := hrefers
      simp only [List.length_append, length_write] at hn
      rcases ih before.length (by omega) before rfl with ⟨out, hout⟩ | ⟨m, hm⟩
      · cases htext : e.text? (String.ofList name) with
        | none => exact Or.inr ⟨name, hname, (e.lacks_iff _).mpr htext, before, after, rfl, out, hout⟩
        | some text =>
          rcases ih after.length (by omega) after rfl with ⟨out', hout'⟩ | ⟨m, hm⟩
          · exact Or.inl ⟨_, .value hname htext hout hout'⟩
          · obtain ⟨before', after', rfl, out', hout'⟩ := hm.split
            refine Or.inr ⟨m, hm.isName, hm.lacks, before ++ write name ++ before', after', ?_, _,
              .value hname htext hout hout'⟩
            simp only [List.append_assoc]
      · obtain ⟨before', after', rfl, hbefore⟩ := hm.split
        refine Or.inr ⟨m, hm.isName, hm.lacks, before', after' ++ write name ++ after, ?_, hbefore⟩
        simp only [List.append_assoc]
    · exact Or.inl ⟨t, .unchanged (not_exists.mp hrefers)⟩

theorem Replaced.not_lacks {t out : List Char} (h : Replaced e t out) (hrefers : Refers t name) :
    ¬ e.Lacks (String.ofList name) := by
  obtain ⟨hname, before, after, rfl⟩ := hrefers
  intro hlacks
  have hvalue := h.valueOf
  rw [valueOf_reference before after hname, bind_eq_ok] at hvalue
  obtain ⟨s, _, hvalue⟩ := hvalue
  simp [Piece.value, (e.lacks_iff _).mp hlacks, bind, Except.bind] at hvalue

theorem exists_replaced (t : List Char) :
    (∃ out, Replaced e t out) ↔ ∀ name, Refers t name → ¬ e.Lacks (String.ofList name) := by
  constructor
  · rintro ⟨out, hout⟩ name hname
    exact hout.not_lacks hname
  · intro h
    rcases replaced_or_lacking e t with hout | ⟨name, hname⟩
    · exact hout
    · obtain ⟨before, after, rfl, _⟩ := hname.split
      exact absurd hname.lacks (h name ⟨hname.isName, before, after, rfl⟩)

theorem valueOf_eq_ok {t out : List Char} : valueOf e (pieces t) = .ok out ↔ Replaced e t out := by
  refine ⟨fun h => ?_, Replaced.valueOf⟩
  rcases replaced_or_lacking e t with ⟨out', hout'⟩ | ⟨name, hname⟩
  · rw [hout'.valueOf] at h
    cases h
    exact hout'
  · rw [hname.valueOf] at h
    cases h

theorem Refers.append {before after : List Char} {m : List Char} (h : Refers before m ∨ Refers after m)
    (mid : List Char) : Refers (before ++ mid ++ after) m := by
  rcases h with ⟨hm, hinfix⟩ | ⟨hm, hinfix⟩
  · refine ⟨hm, hinfix.trans ⟨[], mid ++ after, ?_⟩⟩
    simp
  · exact ⟨hm, hinfix.trans (List.suffix_append (before ++ mid) after).isInfix⟩

section Congr

variable {e' : Environment} {t : List Char}
  (h : ∀ name, Refers t name → e' (String.ofList name) = e (String.ofList name))

include h

theorem Replaced.congr {out : List Char} (hout : Replaced e t out) : Replaced e' t out := by
  induction hout with
  | unchanged hnone => exact .unchanged hnone
  | @value before after before' after' name text hname htext _ _ ih ih' =>
    have hsame := h name ⟨hname, before, after, rfl⟩
    refine .value hname ?_ (ih fun m hm => ?_) (ih' fun m hm => ?_)
    · rw [← htext, Environment.text?, hsame, ← Environment.text?]
    · exact h m (Refers.append (.inl hm) _)
    · exact h m (Refers.append (.inr hm) _)

theorem FirstLacking.congr (hfirst : FirstLacking e t name) : FirstLacking e' t name := by
  obtain ⟨before, after, rfl, out, hout⟩ := hfirst.split
  refine ⟨hfirst.isName, ?_, before, after, rfl, out, ?_⟩
  · have hsame := h name ⟨hfirst.isName, before, after, rfl⟩
    rw [Environment.Lacks, hsame]
    exact hfirst.lacks
  · exact hout.congr fun m hm => h m (Refers.append (.inl hm) _)

theorem valueOf_congr : valueOf e' (pieces t) = valueOf e (pieces t) := by
  rcases replaced_or_lacking e t with ⟨out, hout⟩ | ⟨name, hname⟩
  · rw [hout.valueOf, (hout.congr h).valueOf]
  · rw [hname.valueOf, (hname.congr h).valueOf]

end Congr

theorem valueOf_eq_error {t : List Char} :
    valueOf e (pieces t) = .error (String.ofList name) ↔ FirstLacking e t name := by
  refine ⟨fun h => ?_, FirstLacking.valueOf⟩
  rcases replaced_or_lacking e t with ⟨out, hout⟩ | ⟨m, hm⟩
  · rw [hout.valueOf] at h
    cases h
  · rw [hm.valueOf] at h
    cases String.ofList_injective (Except.error.inj h)
    exact hm

example : substitute (fun name => if name = "A" then some (Text.Utf8.encode "\x7bA\x7d$1") else none)
    "$$\x7bA\x7d $\x7b$\x7bA\x7d\x7d $\x7b1A\x7d $\x7bA" =
      .ok "$\x7bA\x7d$1 $\x7b\x7bA\x7d$1\x7d $\x7b1A\x7d $\x7bA" := by
  decide +kernel

end Reference

namespace Settings

open Reference

theorem read_ne_unset (text name : String) : read text ≠ .error (.unset name) := by
  unfold read
  split
  · simp
  · split <;> simp

theorem load_of_valueOf {e : Environment} {text : String} {out : List Char}
    (h : valueOf e (pieces text.toList) = .ok out) : load e text = read (String.ofList out) := by
  simp only [load, substitute, h, Except.map, Except.mapError, bind, Except.bind]

theorem load_eq_unset {e : Environment} {text : String} {name : String} :
    load e text = .error (.unset name) ↔ valueOf e (pieces text.toList) = .error name := by
  unfold load substitute
  cases valueOf e (pieces text.toList) with
  | error n => simp [Except.map, Except.mapError, bind, Except.bind]
  | ok out =>
    simp only [Except.map, Except.mapError, bind, Except.bind, reduceCtorEq, iff_false]
    exact read_ne_unset _ _

theorem load_substitutes (e : Environment) (text : String) :
    (∀ name, load e text = .error (.unset (String.ofList name)) ↔
      IsName name ∧ e.Lacks (String.ofList name) ∧ ∃ before after,
        text.toList = before ++ write name ++ after ∧
          ∀ m, Refers before m → ¬ e.Lacks (String.ofList m)) ∧
    ((∃ n, load e text = .error (.unset n)) ↔
      ∃ name, Refers text.toList name ∧ e.Lacks (String.ofList name)) ∧
    ((∀ name, Refers text.toList name → ¬ e.Lacks (String.ofList name)) →
      ∃ out, load e text = read (String.ofList out) ∧
        ∀ out', Replaced e text.toList out' ↔ out' = out) ∧
    ∀ e' : Environment,
      (∀ name, Refers text.toList name → e' (String.ofList name) = e (String.ofList name)) →
        load e' text = load e text := by
  refine ⟨fun name => ?_, ?_, fun h => ?_, fun e' h => ?_⟩
  · rw [load_eq_unset, valueOf_eq_error]
    simp only [← exists_replaced]
    exact ⟨fun h => ⟨h.isName, h.lacks, h.split⟩, fun h => ⟨h.1, h.2.1, h.2.2⟩⟩
  · simp only [load_eq_unset]
    rcases replaced_or_lacking e text.toList with hout | ⟨name, hname⟩
    · refine iff_of_false ?_ ?_
      · rintro ⟨n, hn⟩
        obtain ⟨out, hout⟩ := hout
        rw [hout.valueOf] at hn
        cases hn
      · rintro ⟨name, hrefers, hlacks⟩
        exact (exists_replaced _).mp hout name hrefers hlacks
    · refine iff_of_true ⟨_, hname.valueOf⟩ ?_
      obtain ⟨before, after, he, _⟩ := hname.split
      exact ⟨name, ⟨hname.isName, before, after, he.symm⟩, hname.lacks⟩
  · obtain ⟨out, hout⟩ := (exists_replaced _).mpr h
    refine ⟨out, load_of_valueOf hout.valueOf, fun out' => ?_⟩
    rw [← valueOf_eq_ok, hout.valueOf, Except.ok.injEq, eq_comm]
  · unfold load substitute
    rw [valueOf_congr h]

end Settings

end BearerCheck
