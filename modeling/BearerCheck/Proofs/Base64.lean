import BearerCheck.Base64
import BearerCheck.Proofs.Outcome
import Mathlib.Tactic.SplitIfs

namespace BearerCheck.Base64

open Text

theorem sextet?_symbol : ∀ n < 64, sextet? (symbol n) = some n := by decide

theorem symbol_lt : ∀ n < 64, symbol n < 128 := by decide

theorem symbol_ne : ∀ n < 64, symbol n ≠ Ascii.equals ∧ symbol n ≠ Ascii.dot := by decide

theorem sextet_symbol (offset : Nat) {n : Nat} (hn : n < 64) : sextet offset (symbol n) = .ok n := by
  rw [sextet, sextet?_symbol n hn]

theorem mem_encode (bs : List UInt8) : ∀ s ∈ encode bs, ∃ n < 64, s = symbol n := by
  intro s hs
  fun_induction encode bs with
  | case1 => cases hs
  | case2 a =>
    have ha := a.toNat_lt
    simp only [List.mem_cons, List.not_mem_nil, or_false] at hs
    rcases hs with rfl | rfl <;> exact ⟨_, by omega, rfl⟩
  | case3 a b =>
    have ha := a.toNat_lt
    have hb := b.toNat_lt
    simp only [List.mem_cons, List.not_mem_nil, or_false] at hs
    rcases hs with rfl | rfl | rfl <;> exact ⟨_, by omega, rfl⟩
  | case4 a b c r ih =>
    have ha := a.toNat_lt
    have hb := b.toNat_lt
    have hc := c.toNat_lt
    simp only [List.mem_cons] at hs
    rcases hs with rfl | rfl | rfl | rfl | hs
    iterate 4 exact ⟨_, by omega, rfl⟩
    exact ih hs

theorem lastSextets_symbols (offset : Nat) (ns : List Nat) (hns : ∀ n ∈ ns, n < 64) :
    ∀ place, lastSextets offset place (ns.map symbol) = .ok (ns, false) := by
  induction ns with
  | nil =>
    intro place
    rfl
  | cons n ns ih =>
    intro place
    have hn := hns n (by simp)
    rw [List.map_cons, lastSextets, if_neg (symbol_ne n hn).1, sextet_symbol _ hn,
      ih (fun m hm => hns m (List.mem_cons_of_mem _ hm))]
    rfl

theorem toUInt8_of_eq {n : Nat} {b : UInt8} (h : n = b.toNat) : n.toUInt8 = b := by
  subst h
  exact UInt8.ofNat_toNat

theorem triple_sextets (a b c : UInt8) :
    triple (a.toNat / 4) (a.toNat % 4 * 16 + b.toNat / 16) (b.toNat % 16 * 4 + c.toNat / 64)
      (c.toNat % 64) = [a, b, c] := by
  have ha := a.toNat_lt
  have hb := b.toNat_lt
  have hc := c.toNat_lt
  rw [triple, toUInt8_of_eq (b := a) (by omega), toUInt8_of_eq (b := b) (by omega),
    toUInt8_of_eq (b := c) (by omega)]

theorem encode_ne_nil {bs : List UInt8} (h : bs ≠ []) : encode bs ≠ [] := by
  rcases bs with _ | ⟨a, _ | ⟨b, _ | ⟨c, r⟩⟩⟩
  · exact absurd rfl h
  all_goals simp [encode]

theorem decodeGroups_cons (offset : Nat) {i j k l : Nat} (hi : i < 64) (hj : j < 64) (hk : k < 64)
    (hl : l < 64) {s : List UInt8} (hs : s ≠ []) :
    decodeGroups offset (symbol i :: symbol j :: symbol k :: symbol l :: s) =
      (decodeGroups (offset + 4) s).map (triple i j k l ++ ·) := by
  obtain ⟨e, r, rfl⟩ := List.exists_cons_of_ne_nil hs
  rw [decodeGroups, sextet_symbol _ hi, sextet_symbol _ hj, sextet_symbol _ hk, sextet_symbol _ hl]
  cases decodeGroups (offset + 4) (e :: r) <;> rfl

theorem decodeLast_two (offset : Nat) (a : UInt8) :
    decodeLast offset [symbol (a.toNat / 4), symbol (a.toNat % 4 * 16)] = .ok [a] := by
  have ha := a.toNat_lt
  have hsextets := lastSextets_symbols offset [a.toNat / 4, a.toNat % 4 * 16] (by simp; omega) 0
  simp only [List.map_cons, List.map_nil] at hsextets
  rw [decodeLast, hsextets]
  change (if a.toNat % 4 * 16 % 16 = 0 then _ else _) = _
  rw [if_pos (by omega), toUInt8_of_eq (b := a) (by omega)]

theorem decodeLast_three (offset : Nat) (a b : UInt8) :
    decodeLast offset [symbol (a.toNat / 4), symbol (a.toNat % 4 * 16 + b.toNat / 16),
      symbol (b.toNat % 16 * 4)] = .ok [a, b] := by
  have ha := a.toNat_lt
  have hb := b.toNat_lt
  have hsextets := lastSextets_symbols offset
    [a.toNat / 4, a.toNat % 4 * 16 + b.toNat / 16, b.toNat % 16 * 4] (by simp; omega) 0
  simp only [List.map_cons, List.map_nil] at hsextets
  rw [decodeLast, hsextets]
  change (if b.toNat % 16 * 4 % 4 = 0 then _ else _) = _
  rw [if_pos (by omega), toUInt8_of_eq (b := a) (by omega), toUInt8_of_eq (b := b) (by omega)]

theorem decodeLast_four (offset : Nat) (a b c : UInt8) :
    decodeLast offset [symbol (a.toNat / 4), symbol (a.toNat % 4 * 16 + b.toNat / 16),
      symbol (b.toNat % 16 * 4 + c.toNat / 64), symbol (c.toNat % 64)] = .ok [a, b, c] := by
  have ha := a.toNat_lt
  have hb := b.toNat_lt
  have hc := c.toNat_lt
  have hsextets := lastSextets_symbols offset [a.toNat / 4, a.toNat % 4 * 16 + b.toNat / 16,
    b.toNat % 16 * 4 + c.toNat / 64, c.toNat % 64] (by simp; omega) 0
  simp only [List.map_cons, List.map_nil] at hsextets
  rw [decodeLast, hsextets]
  exact congrArg Except.ok (triple_sextets a b c)

theorem decodeGroups_encode (bs : List UInt8) (h : bs ≠ []) (offset : Nat) :
    decodeGroups offset (encode bs) = .ok bs := by
  fun_induction encode bs generalizing offset with
  | case1 => exact absurd rfl h
  | case2 a => exact decodeLast_two offset a
  | case3 a b => exact decodeLast_three offset a b
  | case4 a b c r ih =>
    by_cases hr : r = []
    · subst hr
      exact decodeLast_four offset a b c
    · have ha := a.toNat_lt
      have hb := b.toNat_lt
      have hc := c.toNat_lt
      rw [decodeGroups_cons offset (by omega) (by omega) (by omega) (by omega) (encode_ne_nil hr),
        ih hr, triple_sextets]
      rfl

theorem decode_encode (bs : List UInt8) : decode (encode bs) = .ok bs := by
  by_cases h : bs = []
  · subst h
    rfl
  · unfold decode
    split
    · next b hb =>
      obtain ⟨n, hn, rfl⟩ := mem_encode bs b (List.mem_of_getLast? hb)
      rw [if_neg (by simp [sextet?_symbol n hn])]
      exact decodeGroups_encode bs h 0
    · next hnone => exact absurd (List.getLast?_eq_none_iff.mp hnone) (encode_ne_nil h)

theorem symbol_sextet? : ∀ k < 256, ∀ n ∈ sextet? (UInt8.ofNat k),
    n < 64 ∧ symbol n = UInt8.ofNat k := by
  decide +kernel

theorem sextet_eq_ok {offset n : Nat} {b : UInt8} (h : sextet offset b = .ok n) :
    n < 64 ∧ symbol n = b := by
  unfold sextet at h
  cases hb : sextet? b with
  | none => simp [hb] at h
  | some m =>
    simp only [hb, Except.ok.injEq] at h
    subst h
    have hsymbol := symbol_sextet? b.toNat b.toNat_lt m
    rw [UInt8.ofNat_toNat] at hsymbol
    exact hsymbol hb

theorem lastSextets_eq_ok {offset : Nat} (group : List UInt8) : ∀ (place : Nat) (ns : List Nat),
    lastSextets offset place group = .ok (ns, false) →
      (∀ n ∈ ns, n < 64) ∧ ns.map symbol = group := by
  induction group with
  | nil =>
    intro place ns h
    cases h
    exact ⟨by simp, rfl⟩
  | cons b group ih =>
    intro place ns h
    unfold lastSextets at h
    split_ifs at h
    · cases h
    · obtain ⟨n, hn, h⟩ := bind_eq_ok.mp h
      obtain ⟨⟨ms, padded⟩, hms, h⟩ := bind_eq_ok.mp h
      cases h
      obtain ⟨hlt, rfl⟩ := sextet_eq_ok hn
      obtain ⟨hall, rfl⟩ := ih _ _ hms
      exact ⟨List.forall_mem_cons.mpr ⟨hlt, hall⟩, rfl⟩

theorem toUInt8_toNat {n : Nat} (h : n < 256) : n.toUInt8.toNat = n := UInt8.toNat_ofNat_of_lt h

section Groups

variable {i j k l : Nat}

theorem encode_two (hi : i < 64) (hj : j < 64) (hrest : j % 16 = 0) :
    encode [(i * 4 + j / 16).toUInt8] = [symbol i, symbol j] := by
  have ha : (i * 4 + j / 16).toUInt8.toNat = i * 4 + j / 16 := toUInt8_toNat (by omega)
  have hi' : (i * 4 + j / 16) / 4 = i := by omega
  have hj' : (i * 4 + j / 16) % 4 * 16 = j := by omega
  rw [encode, ha, hi', hj']

theorem encode_three (hi : i < 64) (hj : j < 64) (hk : k < 64) (hrest : k % 4 = 0) :
    encode [(i * 4 + j / 16).toUInt8, (j % 16 * 16 + k / 4).toUInt8] =
      [symbol i, symbol j, symbol k] := by
  have ha : (i * 4 + j / 16).toUInt8.toNat = i * 4 + j / 16 := toUInt8_toNat (by omega)
  have hb : (j % 16 * 16 + k / 4).toUInt8.toNat = j % 16 * 16 + k / 4 := toUInt8_toNat (by omega)
  have hi' : (i * 4 + j / 16) / 4 = i := by omega
  have hj' : (i * 4 + j / 16) % 4 * 16 + (j % 16 * 16 + k / 4) / 16 = j := by omega
  have hk' : (j % 16 * 16 + k / 4) % 16 * 4 = k := by omega
  rw [encode, ha, hb, hi', hj', hk']

theorem encode_triple (hi : i < 64) (hj : j < 64) (hk : k < 64) (hl : l < 64) (bs : List UInt8) :
    encode (triple i j k l ++ bs) = symbol i :: symbol j :: symbol k :: symbol l :: encode bs := by
  have ha : (i * 4 + j / 16).toUInt8.toNat = i * 4 + j / 16 := toUInt8_toNat (by omega)
  have hb : (j % 16 * 16 + k / 4).toUInt8.toNat = j % 16 * 16 + k / 4 := toUInt8_toNat (by omega)
  have hc : (k % 4 * 64 + l).toUInt8.toNat = k % 4 * 64 + l := toUInt8_toNat (by omega)
  have hi' : (i * 4 + j / 16) / 4 = i := by omega
  have hj' : (i * 4 + j / 16) % 4 * 16 + (j % 16 * 16 + k / 4) / 16 = j := by omega
  have hk' : (j % 16 * 16 + k / 4) % 16 * 4 + (k % 4 * 64 + l) / 64 = k := by omega
  have hl' : (k % 4 * 64 + l) % 64 = l := by omega
  simp only [triple, List.cons_append, List.nil_append, encode, ha, hb, hc, hi', hj', hk', hl']

end Groups

theorem decodeLast_eq_ok {offset : Nat} {group bs : List UInt8} (hlength : group.length ≤ 4)
    (h : decodeLast offset group = .ok bs) : group = encode bs := by
  obtain ⟨⟨ns, padded⟩, hns, hbs⟩ := bind_eq_ok.mp h
  clear h
  cases padded with
  | true =>
    simp only [↓reduceIte] at hbs
    split at hbs <;> cases hbs
  | false =>
    obtain ⟨hall, rfl⟩ := lastSextets_eq_ok group 0 ns hns
    rw [List.length_map] at hlength
    rcases ns with _ | ⟨i, _ | ⟨j, _ | ⟨k, _ | ⟨l, _ | ⟨m, ns⟩⟩⟩⟩⟩
    · cases hbs
      rfl
    · cases hbs
    · simp only [List.forall_mem_cons] at hall
      simp only [Bool.false_eq_true, ↓reduceIte] at hbs
      split_ifs at hbs with hrest
      cases hbs
      exact (encode_two hall.1 hall.2.1 hrest).symm
    · simp only [List.forall_mem_cons] at hall
      simp only [Bool.false_eq_true, ↓reduceIte] at hbs
      split_ifs at hbs with hrest
      cases hbs
      exact (encode_three hall.1 hall.2.1 hall.2.2.1 hrest).symm
    · simp only [List.forall_mem_cons] at hall
      cases hbs
      exact (encode_triple hall.1 hall.2.1 hall.2.2.1 hall.2.2.2.1 []).symm
    · simp only [List.length_cons] at hlength
      omega

theorem decodeGroups_eq_ok {offset : Nat} {s bs : List UInt8} (h : decodeGroups offset s = .ok bs) :
    s = encode bs := by
  fun_induction decodeGroups offset s generalizing bs with
  | case1 offset a b c d e r ih =>
    obtain ⟨i, ha, h⟩ := bind_eq_ok.mp h
    obtain ⟨j, hb, h⟩ := bind_eq_ok.mp h
    obtain ⟨k, hc, h⟩ := bind_eq_ok.mp h
    obtain ⟨l, hd, h⟩ := bind_eq_ok.mp h
    obtain ⟨rest, hrest, h⟩ := bind_eq_ok.mp h
    cases h
    obtain ⟨hi, rfl⟩ := sextet_eq_ok ha
    obtain ⟨hj, rfl⟩ := sextet_eq_ok hb
    obtain ⟨hk, rfl⟩ := sextet_eq_ok hc
    obtain ⟨hl, rfl⟩ := sextet_eq_ok hd
    rw [encode_triple hi hj hk hl, ← ih hrest]
  | case2 offset group hgroup =>
    apply decodeLast_eq_ok _ h
    rcases group with _ | ⟨a, _ | ⟨b, _ | ⟨c, _ | ⟨d, _ | ⟨e, r⟩⟩⟩⟩⟩
    iterate 5 simp
    exact absurd rfl (hgroup a b c d e r)

theorem decode_eq_ok {s bs : List UInt8} : decode s = .ok bs ↔ s = encode bs := by
  constructor
  · intro h
    unfold decode at h
    split at h
    · split_ifs at h
      exact decodeGroups_eq_ok h
    · next hnone =>
      cases h
      exact List.getLast?_eq_none_iff.mp hnone
  · rintro rfl
    exact decode_encode bs

theorem encode_length (bs : List UInt8) : (encode bs).length = (4 * bs.length + 2) / 3 := by
  fun_induction encode bs with
  | case1 => rfl
  | case2 a => simp
  | case3 a b => simp
  | case4 a b c r ih =>
    simp only [List.length_cons, ih]
    omega

theorem encode_last (bs : List UInt8) :
    ((encode bs).length % 4 = 2 → ∃ n < 4, (encode bs).getLast? = some (symbol (n * 16))) ∧
      ((encode bs).length % 4 = 3 → ∃ n < 16, (encode bs).getLast? = some (symbol (n * 4))) := by
  fun_induction encode bs with
  | case1 => simp
  | case2 a => exact ⟨fun _ => ⟨a.toNat % 4, by omega, rfl⟩, by simp⟩
  | case3 a b => exact ⟨by simp, fun _ => ⟨b.toNat % 16, by omega, rfl⟩⟩
  | case4 a b c r ih =>
    by_cases hr : r = []
    · subst hr
      simp [encode]
    · obtain ⟨s, t, hst⟩ := List.exists_cons_of_ne_nil (encode_ne_nil hr)
      simp only [hst, List.length_cons, List.getLast?_cons_cons] at ih ⊢
      exact ⟨fun h => ih.1 (by omega), fun h => ih.2 (by omega)⟩

end BearerCheck.Base64
