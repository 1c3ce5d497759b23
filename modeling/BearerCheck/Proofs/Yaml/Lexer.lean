import BearerCheck.Proofs.Yaml.Scalar

/-!
Runs of the lexer, token by token, outside of brackets. Each step takes what is passed over and the
token behind it; at the end every block that is still open is closed.
-/

namespace BearerCheck.Yaml

theorem unifyBreaks_of_not_mem {s : List Char} (hreturn : '\r' ∉ s) (hnext : '\x85' ∉ s) :
    unifyBreaks s = s := by
  induction s with
  | nil => rfl
  | cons c s ih =>
    rw [List.mem_cons, not_or] at hreturn hnext
    have hc : ¬ (c = '\r' ∨ c = '\x85') := not_or.mpr ⟨Ne.symm hreturn.1, Ne.symm hnext.1⟩
    rw [unifyBreaks, if_neg hc, ih hreturn.2 hnext.2]
    rintro r rfl
    exact absurd rfl hreturn.1

section Skipping

theorem after_breaks (n : ℕ) :
    ∀ m : Mark, m.column = 0 →
      m.after (List.replicate n '\n') = ⟨m.index + n, m.line + n, 0⟩ := by
  induction n with
  | zero =>
    rintro ⟨index, line, column⟩ rfl
    rfl
  | succ n ih =>
    intro m _
    have hrest := ih (m.next '\n') rfl
    rw [Mark.after] at hrest
    rw [List.replicate_succ, Mark.after, List.foldl_cons, hrest]
    simp only [Mark.next, isBreak, decide_true, Bool.true_or, ↓reduceIte, Mark.mk.injEq, and_true]
    have hsize : '\n'.utf8Size = 1 := rfl
    omega

theorem skipIgnored_breaks (n : ℕ) (s : List Char) :
    skipIgnored false 0 true false (List.replicate n '\n' ++ s) = skipIgnored false 0 true false s := by
  induction n with
  | zero => rfl
  | succ n ih => exact ih

theorem skipIgnored_spaces (n : ℕ) (allowed : Bool) (s : List Char) :
    ∀ column, skipIgnored false column allowed false (List.replicate n ' ' ++ s) =
      skipIgnored false (column + n) allowed false s := by
  induction n with
  | zero => exact fun column => rfl
  | succ n ih =>
    intro column
    have hcolumn : column + (n + 1) = column + 1 + n := by omega
    rw [hcolumn]
    exact ih (column + 1)

theorem skipIgnored_stop {c : Char} (hc : IsPrintable c) (hspace : c ≠ ' ') (hcomment : c ≠ '#')
    (column : ℕ) (allowed : Bool) (r : List Char) :
    skipIgnored false column allowed false (c :: r) = (c :: r, allowed) := by
  have htab : c ≠ '\t' := hc.ne (by decide)
  have hmark : c ≠ '\uFEFF' := hc.ne (by decide)
  simp [skipIgnored, hc.isBreak, hspace, hcomment, htab, isLineMark, hmark]

end Skipping

namespace Lexer

variable {rest : List Char} {mark : Mark} {tokens : List Token} {indent : Int} {outer : List Int}
  {keys : List (Option PossibleKey)} {key : Option PossibleKey} {allowed : Bool}

theorem moveTo_append (s : List Char) :
    (mk (s ++ rest) mark tokens indent outer keys allowed).moveTo rest =
      mk rest (mark.after s) tokens indent outer keys allowed := by
  simp [moveTo]

theorem take_one (c : Char) (t : Token) :
    (mk (c :: rest) mark tokens indent outer keys allowed).take 1 t =
      mk rest (mark.next c) (tokens ++ [t]) indent outer keys allowed := by
  have hmoved : (mk (c :: rest) mark tokens indent outer keys allowed).moveTo rest =
      mk rest (mark.next c) tokens indent outer keys allowed := moveTo_append [c]
  rw [take, List.drop_one, List.tail_cons, hmoved, emit]

section Blocks

variable {l : Lexer}

theorem closeTo_of_le {column : Int} (h : l.indent ≤ column) (is : List Int) :
    l.closeTo column is = l := by
  cases is with
  | nil => rfl
  | cons i is => rw [closeTo, if_neg (Int.not_lt.mpr h)]

theorem closeBlocks_of_le {column : Int} (h : l.indent ≤ column) : l.closeBlocks column = l := by
  rw [closeBlocks, closeTo_of_le h, ite_self]

theorem closeTo_frame (column : Int) (is : List Int) :
    ∀ l : Lexer, (l.closeTo column is).keys = l.keys ∧ (l.closeTo column is).rest = l.rest := by
  induction is with
  | nil => exact fun l => ⟨rfl, rfl⟩
  | cons i is ih =>
    intro l
    rw [closeTo]
    split
    · exact ih _
    · exact ⟨rfl, rfl⟩

theorem closeTo_closeTo {column : Int} (hcolumn : -1 ≤ column) (is : List Int) :
    ∀ l : Lexer, l.outerIndents = is →
      (l.closeTo column is).closeTo (-1) (l.closeTo column is).outerIndents = l.closeTo (-1) is := by
  induction is with
  | nil =>
    rintro l h
    rw [closeTo, h]
  | cons i is ih =>
    intro l h
    by_cases hlt : column < l.indent
    · rw [closeTo, if_pos hlt, ih _ rfl, closeTo, if_pos (by omega)]
    · rw [closeTo, if_neg hlt, h]

theorem closeTo_tokens (is : List Int) :
    ∀ l : Lexer, (∀ i ∈ (l.indent :: is).dropLast, -1 < i) →
      (l.closeTo (-1) is).tokens = l.tokens ++ List.replicate is.length .blockEnd := by
  induction is with
  | nil =>
    intro l _
    simp [closeTo]
  | cons i is ih =>
    intro l h
    rw [List.dropLast_cons_cons, List.forall_mem_cons] at h
    rw [closeTo, if_pos h.1, ih _ h.2]
    simp [emit, List.replicate_succ]

end Blocks

section Steps

variable {l l' : Lexer}

def Takes (l l' : Lexer) : Prop :=
  ∃ m c r, l.advance? = some m ∧ m.rest = c :: r ∧ m.token? c r = some l'

def Ends (l : Lexer) (tokens : List Token) : Prop :=
  ∃ m, l.advance? = some m ∧ m.rest = [] ∧ m.finish? = some tokens

theorem Takes.run? (h : Takes l l') (n : ℕ) : run? (n + 1) l = run? n l' := by
  obtain ⟨m, c, r, hadvance, hrest, htoken⟩ := h
  simp only [Lexer.run?, hadvance, hrest, htoken, bind, Option.bind]

theorem Ends.run? (h : Ends l tokens) (n : ℕ) : run? (n + 1) l = some tokens := by
  obtain ⟨m, hadvance, hrest, hfinish⟩ := h
  simp only [Lexer.run?, hadvance, hrest, hfinish, bind, Option.bind]

end Steps

def IsFresh (mark : Mark) (k : PossibleKey) : Prop :=
  k.mark.line = mark.line ∧ mark.index ≤ k.mark.index + longestKey

theorem dropStaleKeys?_fresh (hkey : ∀ k ∈ key, IsFresh mark k) :
    (mk rest mark tokens indent outer [key] allowed).dropStaleKeys? =
      some (mk rest mark tokens indent outer [key] allowed) := by
  cases key with
  | none => simp [dropStaleKeys?]
  | some k =>
    obtain ⟨hline, hindex⟩ := hkey k rfl
    have hfresh : (mk rest mark tokens indent outer [some k] allowed).isStale k = false := by
      simp [isStale, hline, hindex]
    simp [dropStaleKeys?, hfresh]

section Skipped

variable {input skipped : List Char} {allowed' : Bool} (hinput : input = skipped ++ rest)
  (hskip : skipIgnored false mark.column allowed false input = (rest, allowed'))

include hinput hskip

theorem advance?_skipped {key' : Option PossibleKey}
    (hstale : (mk rest (mark.after skipped) tokens indent outer [key] allowed').dropStaleKeys? =
      some (mk rest (mark.after skipped) tokens indent outer [key'] allowed')) :
    (mk input mark tokens indent outer [key] allowed).advance? =
      some ((mk rest (mark.after skipped) tokens indent outer [key'] allowed').closeBlocks
        (mark.after skipped).column) := by
  have hmoved : (mk input mark tokens indent outer [key] allowed).moveTo rest =
      mk rest (mark.after skipped) tokens indent outer [key] allowed := by
    rw [hinput, moveTo_append]
  simp only [advance?, inFlow, List.length_singleton, Nat.lt_irrefl, decide_false, hskip, hmoved,
    allowKey, hstale, bind, Option.bind]

theorem advance?_append (hindent : indent ≤ (mark.after skipped).column)
    (hkey : ∀ k ∈ key, IsFresh (mark.after skipped) k) :
    (mk input mark tokens indent outer [key] allowed).advance? =
      some (mk rest (mark.after skipped) tokens indent outer [key] allowed') := by
  rw [advance?_skipped hinput hskip (dropStaleKeys?_fresh hkey), closeBlocks_of_le hindent]

end Skipped

theorem dropStaleKeys?_optional {k : PossibleKey} (hk : k.required = false) :
    ∃ key, (mk rest mark tokens indent outer [some k] allowed).dropStaleKeys? =
        some (mk rest mark tokens indent outer [key] allowed) ∧
      ∀ k' ∈ key, k'.required = false := by
  cases hstale : (mk rest mark tokens indent outer [some k] allowed).isStale k with
  | true => exact ⟨none, by simp [dropStaleKeys?, hstale, hk], nofun⟩
  | false =>
    refine ⟨some k, by simp [dropStaleKeys?, hstale], ?_⟩
    rintro k' ⟨⟩
    exact hk

theorem dropKey?_optional {l : Lexer} (hkeys : l.keys = [key])
    (hkey : ∀ k ∈ key, k.required = false) :
    ∃ m, l.dropKey? = some m ∧ m.tokens = l.tokens := by
  cases key with
  | none => exact ⟨l, by simp [dropKey?, hkeys], rfl⟩
  | some k => exact ⟨{ l with keys := [none] }, by simp [dropKey?, hkeys, hkey k rfl], rfl⟩

theorem ends_of_skipped {k : PossibleKey} (hk : k.required = false) {skipped : List Char}
    {allowed' : Bool} (hskip : skipIgnored false mark.column allowed false skipped = ([], allowed'))
    (hopen : ∀ i ∈ (indent :: outer).dropLast, -1 < i) :
    Ends (mk skipped mark tokens indent outer [some k] allowed)
      (tokens ++ List.replicate outer.length .blockEnd) := by
  obtain ⟨key, hstale, hkey⟩ :
      ∃ key, (mk [] (mark.after skipped) tokens indent outer [some k] allowed').dropStaleKeys? =
          some (mk [] (mark.after skipped) tokens indent outer [key] allowed') ∧
        ∀ k' ∈ key, k'.required = false :=
    dropStaleKeys?_optional hk
  let l := mk [] (mark.after skipped) tokens indent outer [key] allowed'
  let closed := l.closeTo (mark.after skipped).column outer
  have hadvance : (mk skipped mark tokens indent outer [some k] allowed).advance? = some closed :=
    advance?_skipped (List.append_nil skipped).symm hskip hstale
  obtain ⟨hkeys, hrest⟩ := closeTo_frame (mark.after skipped).column outer l
  obtain ⟨hfinalKeys, _⟩ := closeTo_frame (-1) outer l
  have hclosed : closed.closeTo (-1) closed.outerIndents = l.closeTo (-1) outer :=
    closeTo_closeTo (by omega) outer l rfl
  have hflow : closed.inFlow = false := by simp [closed, inFlow, hkeys, l]
  obtain ⟨m, hdrop, htokens⟩ := dropKey?_optional hfinalKeys hkey
  refine ⟨closed, hadvance, hrest, ?_⟩
  simp only [finish?, closeBlocks, hflow, hclosed, hdrop, htokens, bind, Option.bind,
    Bool.false_eq_true, ↓reduceIte]
  exact congrArg some (closeTo_tokens outer l hopen)

section Tokens

variable {l : Lexer}

theorem token?_plain {c : Char} (hc : IsPlain c) (r : List Char) : l.token? c r = l.plain? := by
  have hmarker : ¬ (l.mark.column = 0 ∧ atMarker (c :: r) = true) := by
    rw [atMarker_of_ne (hc.ne (by decide)) (hc.ne (by decide)) r]
    exact fun h => Bool.false_ne_true h.2
  have hstarts : startsPlain l.inFlow c r = true := by
    have hindicator : c ∉ indicators := fun hmem =>
      hc.2 (List.mem_cons_of_mem _ (List.mem_cons_of_mem _ hmem))
    simp [startsPlain, hindicator, hc.isBlank]
  have hne : ∀ d ∈ ' ' :: '.' :: indicators, (c = d) = False := fun d hd => eq_false (hc.ne hd)
  -- so no branch for an indicator is taken
  simp (disch := decide) only [token?, hne, hmarker, hstarts, and_false, false_and, ↓reduceIte]

theorem token?_value {r : List Char} (hr : endsWord r = true) : l.token? ':' r = l.value? := by
  have hmarker : atMarker (':' :: r) = false := atMarker_of_ne (by decide) (by decide) r
  simp [token?, hmarker, hr]

theorem token?_blockEntry {r : List Char} (hr : endsWord r = true)
    (hmarker : atMarker ('-' :: r) = false) : l.token? '-' r = l.blockEntry? := by
  simp [token?, hmarker, hr]

theorem token?_quote (r : List Char) : l.token? '"' r = l.quoted? true := by
  have hmarker : atMarker ('"' :: r) = false := atMarker_of_ne (by decide) (by decide) r
  simp [token?, hmarker]

variable {text : List Char}

theorem noteKey?_none :
    (mk rest mark tokens indent outer [none] true).noteKey? =
      some (mk rest mark tokens indent outer
        [some ⟨tokens.length, mark, indent == mark.column⟩] true) := by
  simp [noteKey?, dropKey?, inFlow]

theorem plain?_key (htext : ∀ c ∈ text, IsPlain c) (hrest : endsWord rest = true) :
    (mk (text ++ ':' :: rest) mark tokens indent outer [none] true).plain? =
      some (mk (':' :: rest) (mark.after text) (tokens ++ [.scalar (String.ofList text) .plain])
        indent outer [some ⟨tokens.length, mark, indent == mark.column⟩] false) := by
  have hread := Yaml.plain?_word htext hrest (indent + 1) false mark.column
  simp [plain?, noteKey?_none, inFlow, hread, allowKey, moveTo_append, emit]

theorem quoted?_verbatim (htext : ∀ c ∈ text, IsVerbatim c) :
    (mk ('"' :: (text ++ '"' :: rest)) mark tokens indent outer [none] true).quoted? true =
      some (mk rest (mark.after ('"' :: (text ++ ['"'])))
        (tokens ++ [.scalar (String.ofList text) .quoted]) indent outer
        [some ⟨tokens.length, mark, indent == mark.column⟩] false) := by
  have hread := double?_verbatim htext rest (mark.column + 1) .none (Nat.succ_pos _) rfl
  have hwhole : '"' :: (text ++ '"' :: rest) = '"' :: (text ++ ['"']) ++ rest := by simp
  simp only [quoted?, noteKey?_none, bind, Option.bind, ↓reduceIte, List.tail_cons, hread]
  rw [hwhole]
  simp only [allowKey, moveTo_append, emit]
  rfl

theorem value?_key {k : PossibleKey} (hplace : k.place = 0) (hindent : indent < k.mark.column) :
    (mk (':' :: rest) mark tokens indent outer [some k] false).value? =
      some (mk rest (mark.next ':') (.blockMapping :: .key :: (tokens ++ [.value])) k.mark.column
        (indent :: outer) [none] false) := by
  simp [value?, emitAt, hplace, openBlock, inFlow, hindent, allowKey, take_one]

theorem blockEntry?_deeper (hindent : indent < mark.column) :
    blockEntry? (mk ('-' :: rest) mark tokens indent outer [none] true) =
      some (mk rest (mark.next '-') (tokens ++ [.blockSequence, .blockEntry]) mark.column
        (indent :: outer) [none] true) := by
  simp [openBlock, blockEntry?, emitAt, inFlow, hindent, allowKey, dropKey?, take_one]

theorem blockEntry?_beside (hindent : indent = mark.column) :
    blockEntry? (mk ('-' :: rest) mark tokens indent outer [none] true) =
      some (mk rest (mark.next '-') (tokens ++ [.blockEntry]) indent outer [none] true) := by
  simp [openBlock, blockEntry?, inFlow, hindent, allowKey, dropKey?, take_one]

end Tokens

end Lexer

end BearerCheck.Yaml
