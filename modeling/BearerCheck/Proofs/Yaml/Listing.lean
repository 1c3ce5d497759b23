import BearerCheck.Proofs.Yaml.Lexer
import BearerCheck.Yaml.Node

namespace BearerCheck.Yaml

structure IsKey (word : List Char) : Prop where
  ne_nil : word ≠ []
  plain : ∀ c ∈ word, IsPlain c
  short : word.length ≤ Lexer.longestKey

def entry (indent : ℕ) (item : List Char) (below : ℕ) : List Char :=
  List.replicate indent ' ' ++ '-' :: ' ' :: '"' :: (item ++ '"' :: List.replicate below '\n')

def listing (above : ℕ) (word : List Char) (indent : ℕ) (item : List Char) (below : ℕ) : List Char :=
  List.replicate above '\n' ++ (word ++ ':' :: '\n' :: entry indent item below)

namespace Lexer

variable {rest text : List Char} {mark : Mark} {tokens : List Token} {indent : Int} {outer : List Int}

theorem takes_word (hword : IsKey text) (hrest : endsWord rest = true) (above : ℕ) :
    Takes (start (List.replicate above '\n' ++ (text ++ ':' :: rest)))
      (mk (':' :: rest) ⟨above + text.length, above, text.length⟩
        [.scalar (String.ofList text) .plain] (-1) [] [some ⟨0, ⟨above, above, 0⟩, false⟩] false) := by
  obtain ⟨c, word, rfl⟩ := List.exists_cons_of_ne_nil hword.ne_nil
  have hc := hword.plain c List.mem_cons_self
  have habove : Mark.after ⟨0, 0, 0⟩ (List.replicate above '\n') = ⟨above, above, 0⟩ := by
    rw [after_breaks above _ rfl, Nat.zero_add]
  have hskip : skipIgnored false 0 true false
      (List.replicate above '\n' ++ (c :: word ++ ':' :: rest)) = (c :: word ++ ':' :: rest, true) := by
    rw [skipIgnored_breaks]
    exact skipIgnored_stop hc.1 (hc.ne (by decide)) (hc.ne (by decide)) 0 true _
  have hadvance : (start (List.replicate above '\n' ++ (c :: word ++ ':' :: rest))).advance? =
      some (mk (c :: word ++ ':' :: rest) ⟨above, above, 0⟩ [] (-1) [] [none] true) := by
    rw [← habove]
    exact advance?_append rfl hskip (by omega) nofun
  refine ⟨_, c, word ++ ':' :: rest, hadvance, rfl, ?_⟩
  rw [token?_plain hc, plain?_key hword.plain hrest,
    after_printable fun c hc => (hword.plain c hc).1, Nat.zero_add]
  rfl

theorem takes_value {k : PossibleKey} (hplace : k.place = 0) (hk : IsFresh mark k)
    (hindent : indent < k.mark.column) (hmark : indent ≤ mark.column) (hrest : endsWord rest = true) :
    Takes (mk (':' :: rest) mark tokens indent outer [some k] false)
      (mk rest (mark.next ':') (.blockMapping :: .key :: (tokens ++ [.value])) k.mark.column
        (indent :: outer) [none] false) := by
  have hinput : ':' :: rest = [] ++ ':' :: rest := rfl
  have hskip : skipIgnored false mark.column false false (':' :: rest) = (':' :: rest, false) :=
    skipIgnored_stop (by decide) (by decide) (by decide) _ _ _
  have hfresh : ∀ k' ∈ some k, IsFresh mark k' := by
    rintro k' ⟨⟩
    exact hk
  refine ⟨_, ':', rest, advance?_append hinput hskip hmark hfresh, rfl, ?_⟩
  rw [token?_value hrest]
  exact value?_key hplace hindent

theorem takes_quoted (htext : ∀ c ∈ text, IsVerbatim c) (hmark : indent ≤ mark.column) :
    Takes (mk (' ' :: '"' :: (text ++ '"' :: rest)) mark tokens indent outer [none] true)
      (mk rest ((mark.next ' ').after ('"' :: (text ++ ['"'])))
        (tokens ++ [.scalar (String.ofList text) .quoted]) indent outer
        [some ⟨tokens.length, mark.next ' ', false⟩] false) := by
  have hinput : ' ' :: '"' :: (text ++ '"' :: rest) = [' '] ++ '"' :: (text ++ '"' :: rest) := rfl
  have hskip : skipIgnored false mark.column true false (' ' :: '"' :: (text ++ '"' :: rest)) =
      ('"' :: (text ++ '"' :: rest), true) := by
    have hstop := skipIgnored_stop (c := '"') (by decide) (by decide) (by decide)
    exact (skipIgnored_spaces 1 true _ _).trans (hstop _ _ _)
  have hnext : (mark.next ' ').column = mark.column + 1 := rfl
  have hindent : indent ≤ (mark.after [' ']).column := by
    change indent ≤ (mark.next ' ').column
    omega
  have hrequired : (indent == (mark.next ' ').column) = false := by
    rw [hnext, beq_eq_false_iff_ne]
    omega
  refine ⟨_, '"', text ++ '"' :: rest, advance?_append hinput hskip hindent nofun, rfl, ?_⟩
  rw [token?_quote, quoted?_verbatim htext]
  change some (mk _ _ _ _ _ [some ⟨_, _, indent == (mark.next ' ').column⟩] _) = _
  rw [hrequired]
  rfl

section Entry

variable {n : ℕ}

theorem after_indentation (mark : Mark) (n : ℕ) :
    mark.after ('\n' :: List.replicate n ' ') = ⟨mark.index + 1 + n, mark.line + 1, n⟩ := by
  have hspaces : ∀ c ∈ List.replicate n ' ', IsPrintable c := by
    intro c hc
    rw [List.eq_of_mem_replicate hc]
    decide
  change (mark.next '\n').after (List.replicate n ' ') = _
  rw [after_printable hspaces, List.length_replicate]
  simp only [Mark.next, isBreak, decide_true, Bool.true_or, ↓reduceIte, Nat.zero_add]
  rfl

theorem advance?_dash (hindent : indent ≤ n) (rest : List Char) :
    (mk ('\n' :: (List.replicate n ' ' ++ '-' :: rest)) mark tokens indent outer [none] false).advance? =
      some (mk ('-' :: rest) ⟨mark.index + 1 + n, mark.line + 1, n⟩ tokens indent outer [none]
        true) := by
  have hinput : '\n' :: (List.replicate n ' ' ++ '-' :: rest) =
      ('\n' :: List.replicate n ' ') ++ '-' :: rest := rfl
  have hskip : skipIgnored false mark.column false false
      ('\n' :: (List.replicate n ' ' ++ '-' :: rest)) = ('-' :: rest, true) := by
    have hline : skipIgnored false mark.column false false
        ('\n' :: (List.replicate n ' ' ++ '-' :: rest)) =
          skipIgnored false 0 true false (List.replicate n ' ' ++ '-' :: rest) := rfl
    rw [hline, skipIgnored_spaces]
    exact skipIgnored_stop (by decide) (by decide) (by decide) _ _ _
  rw [← after_indentation]
  apply advance?_append hinput hskip
  · rw [after_indentation]
    exact hindent
  · exact nofun

variable (hrest : endsWord rest = true) (hmarker : atMarker ('-' :: rest) = false)

include hrest hmarker

theorem takes_entry_deeper (hindent : indent < n) :
    Takes (mk ('\n' :: (List.replicate n ' ' ++ '-' :: rest)) mark tokens indent outer [none] false)
      (mk rest (Mark.next ⟨mark.index + 1 + n, mark.line + 1, n⟩ '-')
        (tokens ++ [.blockSequence, .blockEntry]) n (indent :: outer) [none] true) := by
  refine ⟨_, '-', rest, advance?_dash (Int.le_of_lt hindent) rest, rfl, ?_⟩
  rw [token?_blockEntry hrest hmarker]
  exact blockEntry?_deeper hindent

theorem takes_entry_beside (hindent : indent = n) :
    Takes (mk ('\n' :: (List.replicate n ' ' ++ '-' :: rest)) mark tokens indent outer [none] false)
      (mk rest (Mark.next ⟨mark.index + 1 + n, mark.line + 1, n⟩ '-')
        (tokens ++ [.blockEntry]) indent outer [none] true) := by
  refine ⟨_, '-', rest, advance?_dash (Int.le_of_eq hindent) rest, rfl, ?_⟩
  rw [token?_blockEntry hrest hmarker]
  exact blockEntry?_beside hindent

end Entry

theorem ends_of_breaks {k : PossibleKey} (hk : k.required = false) (below : ℕ)
    (hopen : ∀ i ∈ (indent :: outer).dropLast, -1 < i) :
    Ends (mk (List.replicate below '\n') mark tokens indent outer [some k] false)
      (tokens ++ List.replicate outer.length .blockEnd) := by
  cases below with
  | zero => exact ends_of_skipped hk rfl hopen
  | succ below =>
    have hskip : skipIgnored false mark.column false false (List.replicate (below + 1) '\n') =
        ([], true) := by
      have hbreaks := skipIgnored_breaks below []
      rw [List.append_nil] at hbreaks
      exact hbreaks
    exact ends_of_skipped hk hskip hopen

section Entry

variable {indent : ℕ} {item : List Char} (hitem : ∀ c ∈ item, IsVerbatim c)

include hitem

theorem run?_entry_deeper (hindent : 0 < indent) (below n : ℕ) :
    (mk ('\n' :: entry indent item below) mark tokens 0 [-1] [none] false).run? (n + 3) =
      some (tokens ++ [.blockSequence, .blockEntry, .scalar (String.ofList item) .quoted, .blockEnd,
        .blockEnd]) := by
  let rest := '"' :: (item ++ '"' :: List.replicate below '\n')
  let dash : Mark := Mark.next ⟨mark.index + 1 + indent, mark.line + 1, indent⟩ '-'
  have hdash : (indent : Int) ≤ dash.column := by
    change (indent : Int) ≤ (indent + 1 : ℕ)
    omega
  have hentry : Takes (mk ('\n' :: entry indent item below) mark tokens 0 [-1] [none] false)
      (mk (' ' :: rest) dash (tokens ++ [.blockSequence, .blockEntry]) indent [0, -1] [none] true) :=
    takes_entry_deeper rfl rfl (by omega)
  have hopen : ∀ i ∈ [(indent : Int), 0, -1].dropLast, -1 < i := by
    intro i hi
    rcases List.mem_pair.mp hi with rfl | rfl <;> omega
  rw [hentry.run?, (takes_quoted hitem hdash).run?, (ends_of_breaks rfl below hopen).run?]
  simp

theorem run?_entry_beside (below n : ℕ) :
    (mk ('\n' :: entry 0 item below) mark tokens 0 [-1] [none] false).run? (n + 3) =
      some (tokens ++ [.blockEntry, .scalar (String.ofList item) .quoted, .blockEnd]) := by
  let rest := '"' :: (item ++ '"' :: List.replicate below '\n')
  let dash : Mark := Mark.next ⟨mark.index + 1 + 0, mark.line + 1, 0⟩ '-'
  have hdash : (0 : Int) ≤ dash.column := by omega
  have hentry : Takes (mk ('\n' :: entry 0 item below) mark tokens 0 [-1] [none] false)
      (mk (' ' :: rest) dash (tokens ++ [.blockEntry]) 0 [-1] [none] true) :=
    takes_entry_beside rfl rfl rfl
  have hopen : ∀ i ∈ [(0 : Int), -1].dropLast, -1 < i := by simp
  rw [hentry.run?, (takes_quoted hitem hdash).run?, (ends_of_breaks rfl below hopen).run?]
  simp

end Entry

end Lexer

section Listing

variable {word item : List Char}

theorem mem_listing (hword : IsKey word) (hitem : ∀ c ∈ item, IsPrintable c)
    (above indent below : ℕ) : ∀ c ∈ listing above word indent item below, IsPrintable c ∨ c = '\n' := by
  intro c hc
  simp only [listing, entry, List.mem_append, List.mem_cons, List.mem_replicate] at hc
  rcases hc with ⟨_, rfl⟩ | hc | rfl | rfl | ⟨_, rfl⟩ | rfl | rfl | rfl | hc | rfl | ⟨_, rfl⟩
  · exact Or.inr rfl
  · exact Or.inl (hword.plain c hc).1
  · exact Or.inl (by decide)
  · exact Or.inr rfl
  · exact Or.inl (by decide)
  · exact Or.inl (by decide)
  · exact Or.inl (by decide)
  · exact Or.inl (by decide)
  · exact Or.inl (hitem c hc)
  · exact Or.inl (by decide)
  · exact Or.inr rfl

def listingTokens (word : List Char) (deeper : Bool) (item : List Char) : List Token :=
  [.blockMapping, .key, .scalar (String.ofList word) .plain, .value] ++
    if deeper then
      [.blockSequence, .blockEntry, .scalar (String.ofList item) .quoted, .blockEnd, .blockEnd]
    else [.blockEntry, .scalar (String.ofList item) .quoted, .blockEnd]

theorem listing_isAllowed (hword : IsKey word) (hitem : ∀ c ∈ item, IsPrintable c)
    (above indent below : ℕ) : (listing above word indent item below).all isAllowed = true := by
  rw [List.all_eq_true]
  intro c hc
  rcases mem_listing hword hitem above indent below c hc with h | rfl
  · exact h.isAllowed
  · rfl

theorem unifyBreaks_listing (hword : IsKey word) (hitem : ∀ c ∈ item, IsPrintable c)
    (above indent below : ℕ) :
    unifyBreaks (listing above word indent item below) = listing above word indent item below := by
  have hmem := mem_listing hword hitem above indent below
  apply unifyBreaks_of_not_mem
  · intro hreturn
    rcases hmem _ hreturn with h | h <;> exact absurd h (by decide)
  · intro hnext
    rcases hmem _ hnext with h | h <;> exact absurd h (by decide)

theorem run?_listing (hword : IsKey word) (hitem : ∀ c ∈ item, IsVerbatim c)
    (above indent below n : ℕ) :
    (Lexer.start (listing above word indent item below)).run? (n + 5) =
      some (listingTokens word (0 < indent) item) := by
  let mark : Mark := ⟨above + word.length, above, word.length⟩
  let k : PossibleKey := ⟨0, ⟨above, above, 0⟩, false⟩
  have hkey : Lexer.Takes (.start (listing above word indent item below))
      (.mk (':' :: '\n' :: entry indent item below) mark [.scalar (String.ofList word) .plain] (-1) []
        [some k] false) :=
    Lexer.takes_word hword rfl above
  have hfresh : Lexer.IsFresh mark k := ⟨rfl, Nat.add_le_add_left hword.short above⟩
  have hvalue : Lexer.Takes
      (.mk (':' :: '\n' :: entry indent item below) mark [.scalar (String.ofList word) .plain] (-1) []
        [some k] false)
      (.mk ('\n' :: entry indent item below) (mark.next ':')
        [.blockMapping, .key, .scalar (String.ofList word) .plain, .value] 0 [-1] [none] false) :=
    Lexer.takes_value rfl hfresh (Int.negSucc_lt_zero 0) (by omega) rfl
  rw [hkey.run?, hvalue.run?, listingTokens]
  rcases Nat.eq_zero_or_pos indent with rfl | hindent
  · exact Lexer.run?_entry_beside hitem below n
  · rw [decide_eq_true hindent]
    exact Lexer.run?_entry_deeper hitem hindent below n

theorem tokens?_listing (hword : IsKey word) (hitem : ∀ c ∈ item, IsVerbatim c)
    (above indent below : ℕ) :
    tokens? (listing above word indent item below) =
      some (listingTokens word (0 < indent) item) := by
  have hprintable : ∀ c ∈ item, IsPrintable c := fun c hc => (hitem c hc).1
  obtain ⟨n, hn⟩ : ∃ n, (listing above word indent item below).length + 1 = n + 5 := by
    apply Nat.exists_eq_add_of_le'
    simp only [listing, entry, List.length_append, List.length_cons]
    omega
  rw [tokens?, if_pos (listing_isAllowed hword hprintable above indent below),
    unifyBreaks_listing hword hprintable, hn]
  exact run?_listing hword hitem above indent below n

theorem ofTokens?_listing (word item : List Char) (deeper : Bool) :
    Document.ofTokens? (listingTokens word deeper item) =
      some ⟨.mapping [(.scalar (String.ofList word) .plain none,
        .sequence [.scalar (String.ofList item) .quoted none])], []⟩ := by
  cases deeper <;> rfl

theorem read?_listing (hword : IsKey word) (hitem : ∀ c ∈ item, IsVerbatim c)
    (above indent below : ℕ) :
    Document.read? (String.ofList (listing above word indent item below)) =
      some ⟨.mapping [(.scalar (String.ofList word) .plain none,
        .sequence [.scalar (String.ofList item) .quoted none])], []⟩ := by
  rw [Document.read?, String.toList_ofList, tokens?_listing hword hitem]
  exact ofTokens?_listing word item _

end Listing

end BearerCheck.Yaml
