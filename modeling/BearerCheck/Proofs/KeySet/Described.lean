import BearerCheck.KeySet.Text
import BearerCheck.Proofs.Json.Written
import Mathlib.Data.List.Forall2

namespace BearerCheck

open Json Text

namespace Key

inductive Field where
  | keyId
  | keyType
  | algorithm
  | publicUse
  | modulus
  | exponent
  | thumbprint
  | thumbprint256
  deriving DecidableEq

namespace Field

def name : Field → String
  | .keyId => "kid"
  | .keyType => "kty"
  | .algorithm => "alg"
  | .publicUse => "use"
  | .modulus => "n"
  | .exponent => "e"
  | .thumbprint => "x5t"
  | .thumbprint256 => "x5t#S256"

def value (k : Key) : Field → String
  | .keyId => k.keyId
  | .keyType => k.keyType
  | .algorithm => k.algorithm
  | .publicUse => k.publicUse
  | .modulus => k.modulus
  | .exponent => k.exponent
  | .thumbprint => k.thumbprint
  | .thumbprint256 => k.thumbprint256

def set (k : Key) (t : String) : Field → Key
  | .keyId => { k with keyId := t }
  | .keyType => { k with keyType := t }
  | .algorithm => { k with algorithm := t }
  | .publicUse => { k with publicUse := t }
  | .modulus => { k with modulus := t }
  | .exponent => { k with exponent := t }
  | .thumbprint => { k with thumbprint := t }
  | .thumbprint256 => { k with thumbprint256 := t }

theorem value_set (k : Key) (t : String) (f g : Field) :
    f.value (g.set k t) = if g = f then t else f.value k := by
  cases f <;> cases g <;> rfl

theorem chain_set (k : Key) (t : String) (f : Field) : (f.set k t).chain = k.chain := by
  cases f <;> rfl

end Field

inductive Entry where
  | text (f : Field) (t : String)
  | chain (ts : List String)
  | other (name : String)

namespace Entry

def name : Entry → String
  | .text f _ => f.name
  | .chain _ => "x5c"
  | .other name => name

def phrase : Entry → Phrase
  | .text _ t => StringIs t
  | .chain ts => ListIs StringIs ts
  | .other _ => ValueAt

def apply (k : Key) : Entry → Key
  | .text f t => f.set k t
  | .chain ts => { k with chain := ts }
  | .other _ => k

def text? (f : Field) : Entry → Option String
  | .text g t => if g = f then some t else none
  | _ => none

def chain? : Entry → Option (List String)
  | .chain ts => some ts
  | _ => none

end Entry

def names : List String := ["kid", "kty", "alg", "use", "n", "e", "x5c", "x5t", "x5t#S256"]

/-- The members of a key in the order they are written in, each that is known once at most. -/
structure Description where
  entries : List Entry
  once : entries.Pairwise fun e e' => e.name ∈ names → e.name ≠ e'.name
  others : ∀ name, .other name ∈ entries → name ∉ names

structure GivenBy (k : Key) (d : Description) : Prop where
  text : ∀ f t, .text f t ∈ d.entries → f.value k = t
  noText : ∀ f, (∀ t, .text f t ∉ d.entries) → f.value k = ""
  chain : ∀ ts, .chain ts ∈ d.entries → k.chain = ts
  noChain : (∀ ts, .chain ts ∉ d.entries) → k.chain = []

def KeyIs (d : Description) : Phrase := ObjectIs Entry.name Entry.phrase d.entries

theorem phrase_valueAt (e : Entry) (s r : List UInt8) (h : e.phrase s r) : ValueAt s r := by
  cases e with
  | text f t => exact StringIs.valueAt h
  | chain ts => exact ListIs.valueAt (fun _ _ _ _ h => StringIs.valueAt h) h
  | other name => exact h

section Step

variable {s t r : List UInt8} {x : List String × Key}

def take (x : List String × Key) (e : Entry) : Except Json.Error (List String × Key) :=
  if e.name ∈ names then
    if e.name ∈ x.1 then .error (.duplicate e.name) else .ok (e.name :: x.1, e.apply x.2)
  else .ok x

theorem Field.member? (f : Field) :
    record.member? f.name = some (stringField f.name fun k t => f.set k t) := by
  cases f <;> rfl

theorem Field.name_mem (f : Field) : f.name ∈ names := by
  cases f <;> decide

theorem chain_member? : record.member? "x5c" = some ⟨"x5c", fun k s =>
    (list string s).map fun (ts, r) => ({ k with chain := ts }, r)⟩ := rfl

theorem chain_mem : "x5c" ∈ names := by decide

theorem member?_eq_none {name : String} (h : name ∉ names) : record.member? name = none := by
  refine List.find?_eq_none.mpr fun f hf => ?_
  have hmem : f.name ∈ names := by
    simp only [record, List.mem_cons, List.not_mem_nil, or_false] at hf
    rcases hf with rfl | rfl | rfl | rfl | rfl | rfl | rfl | rfl | rfl <;> decide
  simpa using fun he : f.name = name => h (he ▸ hmem)

theorem step_entry {e : Entry} (hother : ∀ name, e = .other name → name ∉ names)
    (hs : skipSpace s = Ascii.colon :: t) (h : e.phrase t r) (hr : EndsNumber r) :
    record.step x e.name s = (take x e).map fun y => (y, r) := by
  unfold take
  cases e with
  | text f a =>
    have hmem : (Entry.text f a).name ∈ names := f.name_mem
    have hread : (stringField f.name fun k t => f.set k t).read x.2 t =
        (Except.ok (f.set x.2 a) : Except _ Key).map fun y => (y, r) :=
      map_eq_ok.mpr ⟨_, string_of_stringIs h hr, rfl⟩
    rw [if_pos hmem]
    exact step_known f.member? hs hread
  | chain ts =>
    have hmem : (Entry.chain ts).name ∈ names := chain_mem
    rw [if_pos hmem]
    have hread : (list string t).map (fun (ts, r) => ({ x.2 with chain := ts }, r)) =
        (Except.ok { x.2 with chain := ts } : Except _ Key).map fun y => (y, r) :=
      map_eq_ok.mpr ⟨_, list_string_of_listIs h, rfl⟩
    exact step_known chain_member? hs hread
  | other name =>
    have hmem : (Entry.other name).name ∉ names := hother name rfl
    rw [if_neg hmem]
    exact step_ignored rfl (member?_eq_none hmem) hs h hr x

end Step

theorem Entry.apply_of_unknown (e : Entry) (h : e.name ∉ names) (k : Key) : e.apply k = k := by
  cases e with
  | text f t => exact absurd f.name_mem h
  | chain ts => exact absurd chain_mem h
  | other name => rfl

section Entries

variable {es : List Entry}

theorem foldlM_take (honce : es.Pairwise fun e e' => e.name ∈ names → e.name ≠ e'.name)
    (ns : List String) (k : Key) (hnew : ∀ e ∈ es, e.name ∈ names → e.name ∉ ns) :
    ∃ ns', es.foldlM take (ns, k) = .ok (ns', es.foldl Entry.apply k) := by
  induction es generalizing ns k with
  | nil => exact ⟨ns, rfl⟩
  | cons e es ih =>
    obtain ⟨hhead, htail⟩ := List.pairwise_cons.mp honce
    rw [List.foldlM_cons, List.foldl_cons, take]
    by_cases hknown : e.name ∈ names
    · rw [if_pos hknown, if_neg (hnew e List.mem_cons_self hknown)]
      refine ih htail _ _ fun e' he' hknown' => ?_
      rw [List.mem_cons, not_or]
      exact ⟨(hhead e' he' hknown).symm, hnew e' (List.mem_cons_of_mem _ he') hknown'⟩
    · rw [if_neg hknown, e.apply_of_unknown hknown]
      exact ih htail ns k fun e' he' => hnew e' (List.mem_cons_of_mem _ he')

end Entries

def ofDescription (d : Description) : Key := d.entries.foldl Entry.apply empty

structure Part (β : Type) where
  name : String
  known : name ∈ names
  value : Key → β
  given? : Entry → Option β
  name_of_given : ∀ e b, given? e = some b → e.name = name
  value_apply : ∀ k e, value (e.apply k) = (given? e).getD (value k)

namespace Part

variable {β : Type} (p : Part β)

theorem value_foldl_none {es : List Entry} (h : ∀ e ∈ es, p.given? e = none) (k : Key) :
    p.value (es.foldl Entry.apply k) = p.value k := by
  induction es generalizing k with
  | nil => rfl
  | cons e es ih =>
    rw [List.foldl_cons, ih fun e' he' => h e' (List.mem_cons_of_mem _ he'), p.value_apply,
      h e List.mem_cons_self, Option.getD_none]

theorem value_foldl_some {es : List Entry}
    (honce : es.Pairwise fun e e' => e.name ∈ names → e.name ≠ e'.name) {e : Entry} (he : e ∈ es)
    {b : β} (hb : p.given? e = some b) (k : Key) : p.value (es.foldl Entry.apply k) = b := by
  induction es generalizing k with
  | nil => cases he
  | cons e' es ih =>
    obtain ⟨hhead, htail⟩ := List.pairwise_cons.mp honce
    rw [List.foldl_cons]
    rcases List.mem_cons.mp he with rfl | he
    · -- a member behind this one that gave a value too would have its name
      have hname := p.name_of_given e b hb
      have hrest : ∀ e' ∈ es, p.given? e' = none := by
        intro e' he'
        refine Option.eq_none_iff_forall_ne_some.mpr fun b' hb' => ?_
        exact hhead e' he' (hname ▸ p.known) (hname.trans (p.name_of_given e' b' hb').symm)
      rw [p.value_foldl_none hrest, p.value_apply, hb, Option.getD_some]
    · exact ih htail he _

end Part

def Field.part (f : Field) : Part String where
  name := f.name
  known := f.name_mem
  value := f.value
  given? := Entry.text? f
  name_of_given := by
    intro e t h
    cases e with
    | text g t =>
      by_cases hg : g = f
      · exact congrArg Field.name hg
      · cases (if_neg hg).symm.trans h
    | _ => cases h
  value_apply := by
    intro k e
    cases e with
    | text g t =>
      rw [Entry.apply, Field.value_set, Entry.text?]
      split_ifs <;> rfl
    | _ => cases f <;> rfl

def chainPart : Part (List String) where
  name := "x5c"
  known := chain_mem
  value := Key.chain
  given? := Entry.chain?
  name_of_given := by
    intro e ts h
    cases e with
    | chain ts => rfl
    | _ => cases h
  value_apply := by
    intro k e
    cases e with
    | text g t => exact g.chain_set k t
    | _ => rfl

theorem ofDescription_givenBy (d : Description) : (ofDescription d).GivenBy d where
  text := fun f _ h => f.part.value_foldl_some d.once h (if_pos rfl) empty
  noText := by
    intro f h
    have hnone : ∀ e ∈ d.entries, f.part.given? e = none := by
      intro e he
      cases e with
      | text g t =>
        refine if_neg fun hg => ?_
        subst hg
        exact h t he
      | _ => rfl
    refine (f.part.value_foldl_none hnone empty).trans ?_
    cases f <;> rfl
  chain := fun _ h => chainPart.value_foldl_some d.once h rfl empty
  noChain := by
    intro h
    have hnone : ∀ e ∈ d.entries, chainPart.given? e = none := by
      intro e he
      cases e with
      | chain ts => exact absurd he (h ts)
      | _ => rfl
    exact chainPart.value_foldl_none hnone empty

theorem read_of_keyIs {d : Description} {s r : List UInt8} (h : KeyIs d s r) :
    record.read empty s = .ok (ofDescription d, r) := by
  have hread := read_of_objectIs (fun e _ => phrase_valueAt e) (fun x e he s t r hs ht hr =>
    step_entry (x := x) (fun name hname => d.others name (hname ▸ he)) hs ht hr) h empty
  obtain ⟨ns, hfold⟩ := foldlM_take d.once [] empty fun _ _ _ => List.not_mem_nil
  rw [hread, hfold]
  rfl

theorem keyIs_valueAt {d : Description} {s r : List UInt8} (h : KeyIs d s r) : ValueAt s r :=
  ObjectIs.valueAt (fun e _ => phrase_valueAt e) h

def allEntries (k : Key) : List Entry := [
  .text .keyId k.keyId, .text .keyType k.keyType, .text .algorithm k.algorithm,
  .text .publicUse k.publicUse, .text .modulus k.modulus, .text .exponent k.exponent,
  .chain k.chain, .text .thumbprint k.thumbprint, .text .thumbprint256 k.thumbprint256]

theorem allEntries_once (k : Key) :
    k.allEntries.Pairwise fun e e' => e.name ∈ names → e.name ≠ e'.name := by
  have hnames : (k.allEntries.map Entry.name).Pairwise
      fun name name' => name ∈ names → name ≠ name' :=
    (by decide : names.Pairwise fun name name' => name ∈ names → name ≠ name')
  exact List.pairwise_map.mp hnames

def described (k : Key) : Description where
  entries := k.allEntries
  once := k.allEntries_once
  others := by simp [allEntries]

theorem ofDescription_described (k : Key) : ofDescription k.described = k := by
  simp only [ofDescription, described, allEntries, List.foldl_cons, List.foldl_nil, Entry.apply,
    Field.set]

def Entry.print : Entry → List UInt8
  | .text _ t => quote t
  | .chain ts => arrayOf (ts.map quote)
  | .other _ => Scalar.print .null

theorem Entry.phrase_print (e : Entry) (r : List UInt8) : e.phrase (e.print ++ r) r := by
  cases e with
  | text f t => exact stringIs_quote t r
  | chain ts => exact listIs_arrayOf (fun t _ => stringIs_quote t) r
  | other name =>
    rw [Entry.print, print_null]
    exact .scalar (.null r)

theorem keyIs_print (k : Key) (r : List UInt8) : KeyIs k.described (k.print ++ r) r := by
  have hprint : k.print = objectOf (k.described.entries.map fun e => (e.name, e.print)) := rfl
  rw [hprint]
  exact objectIs_objectOf (fun (e : Entry) _ => e.phrase_print) r

end Key

namespace KeySet

def membersAround (before after : List String) (ds : List Key.Description) :
    List (String × Phrase) :=
  before.map (·, ValueAt) ++ ("keys", ListIs Key.KeyIs ds) :: after.map (·, ValueAt)

def Describes (ds : List Key.Description) (bs : List UInt8) : Prop :=
  ∃ before after : List String, "keys" ∉ before ∧ "keys" ∉ after ∧
    IsObjectOf Prod.fst Prod.snd (membersAround before after ds) bs

theorem list_of_listIs_keyIs {ds : List Key.Description} {s r : List UInt8}
    (h : ListIs Key.KeyIs ds s r) :
    list (Key.record.read .empty) s = .ok (ds.map Key.ofDescription, r) := by
  have hkeys : ListIs (fun k s r => ∃ d, Key.ofDescription d = k ∧ Key.KeyIs d s r)
      (ds.map Key.ofDescription) s r :=
    h.map fun d _ _ _ hd => ⟨d, rfl, hd⟩
  refine list_of_listIs ?_ ?_ hkeys
  · rintro _ _ s r ⟨d, _, hd⟩
    exact Key.keyIs_valueAt hd
  · rintro _ _ s r ⟨d, rfl, u, hu, hd⟩ _
    exact Key.read_of_keyIs ⟨u, (skipSpace_skipSpace s).trans hu, hd⟩

def take (ks : List Key) (x : List String × KeySet) (m : String × Phrase) :
    Except Json.Error (List String × KeySet) :=
  if m.1 = "keys" then
    if m.1 ∈ x.1 then .error (.duplicate m.1) else .ok (m.1 :: x.1, ⟨ks⟩)
  else .ok x

theorem foldlM_take_others (ks : List Key) {names : List String} (h : "keys" ∉ names)
    (x : List String × KeySet) : (names.map (·, ValueAt)).foldlM (take ks) x = .ok x := by
  induction names with
  | nil => rfl
  | cons name names ih =>
    rw [List.mem_cons, not_or] at h
    rw [List.map_cons, List.foldlM_cons, take, if_neg (Ne.symm h.1)]
    exact ih h.2

section Members

variable {before after : List String} {ds : List Key.Description}

theorem foldlM_take (hbefore : "keys" ∉ before) (hafter : "keys" ∉ after) (ks : List Key) :
    (membersAround before after ds).foldlM (take ks) ([], ⟨[]⟩) = .ok (["keys"], ⟨ks⟩) := by
  rw [membersAround, List.foldlM_append, foldlM_take_others ks hbefore]
  exact foldlM_take_others ks hafter (["keys"], ⟨ks⟩)

theorem mem_membersAround (hbefore : "keys" ∉ before) (hafter : "keys" ∉ after)
    {m : String × Phrase} (hm : m ∈ membersAround before after ds) :
    m = ("keys", ListIs Key.KeyIs ds) ∨ ∃ name, name ≠ "keys" ∧ m = (name, ValueAt) := by
  rw [membersAround, List.mem_append, List.mem_cons, List.mem_map, List.mem_map] at hm
  rcases hm with ⟨name, hname, rfl⟩ | rfl | ⟨name, hname, rfl⟩
  · exact Or.inr ⟨name, fun he => hbefore (he ▸ hname), rfl⟩
  · exact Or.inl rfl
  · exact Or.inr ⟨name, fun he => hafter (he ▸ hname), rfl⟩

theorem member?_keys : record.member? "keys" = some ⟨"keys", fun _ s =>
    (list (Key.record.read .empty) s).map fun (ks, r) => (⟨ks⟩, r)⟩ := rfl

theorem member?_eq_none {name : String} (h : name ≠ "keys") : record.member? name = none := by
  simp [Record.member?, record, h.symm]

theorem step_member (hbefore : "keys" ∉ before) (hafter : "keys" ∉ after)
    (x : List String × KeySet) (m : String × Phrase) (hm : m ∈ membersAround before after ds)
    (s t r : List UInt8) (hs : skipSpace s = Ascii.colon :: t) (h : m.2 t r) (hr : EndsNumber r) :
    record.step x m.1 s = (take (ds.map Key.ofDescription) x m).map fun y => (y, r) := by
  rcases mem_membersAround hbefore hafter hm with rfl | ⟨name, hname, rfl⟩
  · have hread : (list (Key.record.read .empty) t).map (fun (ks, r) => (KeySet.mk ks, r)) =
        (Except.ok ⟨ds.map Key.ofDescription⟩ : Except _ KeySet).map fun y => (y, r) :=
      map_eq_ok.mpr ⟨_, list_of_listIs_keyIs h, rfl⟩
    exact step_known member?_keys hs hread
  · rw [take, if_neg hname]
    exact step_ignored rfl (member?_eq_none hname) hs h hr x

end Members

theorem read_of_describes {ds : List Key.Description} {bs : List UInt8} (h : Describes ds bs) :
    read bs = .ok ⟨ds.map Key.ofDescription⟩ := by
  obtain ⟨before, after, hbefore, hafter, hobject⟩ := h
  have hlength : ∀ m ∈ membersAround before after ds, ∀ s r, m.2 s r → r.length ≤ s.length := by
    intro m hm s r hphrase
    rcases mem_membersAround hbefore hafter hm with rfl | ⟨name, _, rfl⟩
    · exact (ListIs.valueAt (fun _ _ _ _ => Key.keyIs_valueAt) hphrase).length_lt.le
    · exact (ValueAt.length_lt hphrase).le
  unfold read
  rw [document_row hlength (step_member hbefore hafter) hobject, foldlM_take hbefore hafter]
  rfl

theorem describes_print (ks : KeySet) : Describes (ks.keys.map Key.described) ks.print := by
  have hkeys (r : List UInt8) : ListIs Key.KeyIs (ks.keys.map Key.described)
      (arrayOf (ks.keys.map Key.print) ++ r) r :=
    (listIs_arrayOf (fun k _ => k.keyIs_print) r).map fun _ _ _ _ h => h
  let ms := membersAround [] [] (ks.keys.map Key.described)
  have hobject : IsObjectOf Prod.fst Prod.snd ms
      (objectOf (ms.map fun m => (m.1, arrayOf (ks.keys.map Key.print)))) :=
    isObjectOf_objectOf (by simpa [ms, membersAround] using hkeys)
  exact ⟨[], [], List.not_mem_nil, List.not_mem_nil, hobject⟩

theorem read_described :
    (∀ ds bs, Describes ds bs → ∃ ks, read bs = .ok ⟨ks⟩ ∧ List.Forall₂ Key.GivenBy ks ds) ∧
      ∀ ks, read (print ks) = .ok ks := by
  constructor
  · intro ds bs h
    refine ⟨_, read_of_describes h, ?_⟩
    rw [List.forall₂_map_left_iff]
    exact List.forall₂_same.mpr fun d _ => Key.ofDescription_givenBy d
  · intro ks
    rw [read_of_describes (describes_print ks), List.map_map]
    simp only [Function.comp_def, Key.ofDescription_described, List.map_id']

example : read (Utf8.encode ("\x7b\"v\": 1e999, \"keys\": [\x7b\"x5c\": [\"a\", \"b\"], " ++
    "\"q\": [null], \"use\": \"sig\", \"k\\u0069d\": \"1\"\x7d, \x7b\x7d]\x7d")) =
    .ok ⟨[{ Key.empty with keyId := "1", publicUse := "sig", chain := ["a", "b"] }, .empty]⟩ := by
  decide +kernel

end KeySet

end BearerCheck
