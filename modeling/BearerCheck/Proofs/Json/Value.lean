import BearerCheck.Proofs.Dictionary
import BearerCheck.Proofs.Json.Array

namespace BearerCheck.Json

open Text Dictionary

namespace Value

def Fits : Nat → Value → Prop
  | _, .scalar _ => True
  | 0, _ => False
  | depth + 1, .array vs => ∀ v ∈ vs, v.Fits depth
  | depth + 1, .object ms => ∀ m ∈ ms, m.2.Fits depth

inductive Whole : Value → Prop
  | scalar {s : Scalar} : (∀ x, s ≠ .number (.real x)) → Whole (.scalar s)
  | array {vs : List Value} : (∀ v ∈ vs, Whole v) → Whole (.array vs)
  | object {ms : List (String × Value)} : (∀ m ∈ ms, Whole m.2) → Whole (.object ms)

inductive Ordered : Value → Prop
  | scalar (s : Scalar) : Ordered (.scalar s)
  | array {vs : List Value} : (∀ v ∈ vs, Ordered v) → Ordered (.array vs)
  | object {ms : List (String × Value)} :
      Ascending ms → (∀ m ∈ ms, Ordered m.2) → Ordered (.object ms)

mutual

/-- The value with the members of its objects in order; of those with one name the last stays. -/
def normal : Value → Value
  | .scalar s => .scalar s
  | .array vs => .array (normalAll vs)
  | .object ms => .object (ofList (normalMembers ms))

def normalAll : List Value → List Value
  | [] => []
  | v :: vs => v.normal :: normalAll vs

def normalMembers : List (String × Value) → List (String × Value)
  | [] => []
  | (k, v) :: ms => (k, v.normal) :: normalMembers ms

end

theorem normalAll_eq (vs : List Value) : normalAll vs = vs.map normal := by
  induction vs with
  | nil => rfl
  | cons v vs ih => rw [normalAll, ih, List.map_cons]

theorem normalMembers_eq (ms : List (String × Value)) :
    normalMembers ms = ms.map fun m => (m.1, m.2.normal) := by
  induction ms with
  | nil => rfl
  | cons m ms ih => rw [normalMembers, ih, List.map_cons]

theorem Ordered.normal_eq {v : Value} (h : v.Ordered) : v.normal = v := by
  induction h with
  | scalar s => rfl
  | @array vs _ ih =>
    have hvs : vs.map normal = vs.map id := List.map_congr_left ih
    rw [List.map_id] at hvs
    rw [normal, normalAll_eq, hvs]
  | @object ms hms _ ih =>
    have hmap : (ms.map fun m => (m.1, m.2.normal)) = ms.map id :=
      List.map_congr_left fun m hm => Prod.ext rfl (ih m hm)
    rw [List.map_id] at hmap
    rw [normal, normalMembers_eq, hmap, ofList_of_ascending hms]

end Value

theorem printAll_eq (vs : List Value) : printAll vs = vs.map Value.print := by
  induction vs with
  | nil => rfl
  | cons v vs ih => rw [printAll, ih, List.map_cons]

theorem printMembers_eq (ms : List (String × Value)) : printMembers ms = named Value.print ms := by
  induction ms with
  | nil => rfl
  | cons m ms ih => rw [printMembers, ih, named_cons]

theorem printMembers_append (ms ms' : List (String × Value)) :
    printMembers (ms ++ ms') = printMembers ms ++ printMembers ms' := by
  simp only [printMembers_eq, named, List.map_append]

theorem print_null : Scalar.print .null = [0x6E, 0x75, 0x6C, 0x6C] := by decide +kernel

theorem print_bool (b : Bool) : Scalar.print (.bool b) =
    if b then [0x74, 0x72, 0x75, 0x65] else [0x66, 0x61, 0x6C, 0x73, 0x65] := by
  cases b <;> decide +kernel

theorem start_print_scalar {s : Scalar} (hs : ∀ x, s ≠ .number (.real x)) {b : UInt8}
    (hb : EndsValue b) (rest : List UInt8) :
    start (s.print ++ b :: rest) = .ok (.scalar s, b :: rest) := by
  cases s with
  | null =>
    rw [print_null]
    rfl
  | bool t =>
    rw [print_bool]
    cases t <;> rfl
  | number n =>
    cases n with
    | integer i => exact start_integer i hb rest
    | real x => exact absurd rfl (hs x)
  | string t => exact start_quote t (b :: rest)

theorem digitByte_opens : ∀ d < 10,
    isSpace (digitByte d) = false ∧ digitByte d ≠ Ascii.closeBracket := by decide

theorem print_opens {v : Value} (h : v.Whole) : Opens v.print := by
  cases h with
  | @scalar s hs =>
    change Opens s.print
    cases s with
    | null => exact ⟨_, _, print_null, rfl, by decide⟩
    | bool t => cases t <;> exact ⟨_, _, print_bool _, rfl, by decide⟩
    | number n =>
      cases n with
      | integer i =>
        change Opens (Number.integer i).print
        rcases print_integer i with ⟨n, _, hprint⟩ | ⟨n, _, _, hprint⟩
        · obtain ⟨d, ds, he, _⟩ := decimal_head n
          rw [he, List.map_cons] at hprint
          obtain ⟨hspace, hclose⟩ := digitByte_opens d (decimal_lt_ten n d (by simp [he]))
          exact ⟨_, _, hprint, hspace, hclose⟩
        · exact ⟨_, _, hprint, rfl, by decide⟩
      | real x => exact absurd rfl (hs x)
    | string t => exact ⟨_, _, quote_eq t, rfl, by decide⟩
  | array _ => exact ⟨_, _, arrayOf_eq _, rfl, by decide⟩
  | object _ => exact ⟨_, _, objectOf_eq _, rfl, by decide⟩

theorem addMember_answers {depth : Nat} {v : Value} (h : Takes (value depth) v.print v.normal)
    (ms : List (String × Value)) (name : String) :
    Answers (addMember (value depth) ms name) (Ascii.colon :: v.print)
      (.ok (insert name v.normal ms)) := by
  intro b rest hb
  exact bind_eq_ok.mpr ⟨_, rfl, bind_eq_ok.mpr ⟨_, h b rest hb, rfl⟩⟩

theorem foldlM_insert (ms : List (String × Value)) (d : List (String × Value)) :
    ms.foldlM (fun d m => (.ok (insert m.1 m.2.normal d) : Except Error _)) d =
      .ok (insertAll d (Value.normalMembers ms)) := by
  induction ms generalizing d with
  | nil => rfl
  | cons m ms ih => exact ih (insert m.1 m.2.normal d)

theorem value_print (depth : Nat) :
    ∀ v : Value, v.Fits depth → v.Whole → Takes (value depth) v.print v.normal := by
  have hscalar (depth : Nat) {s : Scalar} (hs : ∀ x, s ≠ .number (.real x)) :
      Takes (value depth) (Value.scalar s).print (.scalar s) := by
    intro b rest hb
    exact value_of_start (start_print_scalar hs hb rest) depth
  -- the reader goes by the depth that is left and not by the value, and so does the induction
  induction depth with
  | zero =>
    intro v hfits hwhole
    cases hwhole with
    | scalar hs => exact hscalar 0 hs
    | array _ => exact hfits.elim
    | object _ => exact hfits.elim
  | succ depth ih =>
    intro v hfits hwhole
    cases hwhole with
    | scalar hs => exact hscalar (depth + 1) hs
    | @array vs hvs =>
      intro b rest _
      have hread : arrayOfItems (value depth) (arrayTail (vs.map Value.print) ++ b :: rest) =
          .ok (vs.map Value.normal, b :: rest) :=
        arrayOfItems_map (fun w hw => ⟨print_opens (hvs w hw), ih w (hfits w hw) (hvs w hw)⟩) _
      refine bind_eq_ok.mpr ⟨_, start_arrayOf _ _, ?_⟩
      simp only [printAll_eq, hread, Except.map, Value.normal, Value.normalAll_eq]
    | @object ms hms =>
      intro b rest _
      have hread := objectOfMembers_fold (fun d m hm =>
        addMember_answers (ih m.2 (hfits m hm) (hms m hm)) d m.1) [] (b :: rest)
      refine bind_eq_ok.mpr ⟨_, start_objectOf _ _, ?_⟩
      simp only [printMembers_eq, hread, foldlM_insert, Except.map, Value.normal, ofList]

theorem elements_invariant {α : Type} {item : Reader α} {P : α → Prop}
    (hitem : ∀ s x r, item s = .ok (x, r) → P x) :
    ∀ (n : Nat) (first : Bool) (s : List UInt8) (xs : List α) (r : List UInt8),
      elements item n first s = .ok (xs, r) → ∀ x ∈ xs, P x
  | 0, _, _, _, _, h => by cases h
  | n + 1, first, s, xs, r, h => by
    obtain ⟨turn, _, h⟩ := bind_eq_ok.mp h
    cases turn with
    | close r' =>
      cases h
      simp
    | next s' =>
      obtain ⟨⟨y, u⟩, hy, h⟩ := bind_eq_ok.mp h
      obtain ⟨⟨ys, u'⟩, hys, h⟩ := bind_eq_ok.mp h
      cases h
      intro x hx
      rcases List.mem_cons.mp hx with rfl | hx
      · exact hitem _ _ _ hy
      · exact elements_invariant hitem n false _ _ _ hys x hx

def Kept (P : Value → Prop) (ms : List (String × Value)) : Prop :=
  Ascending ms ∧ ∀ m ∈ ms, P m.2

theorem eq_insert_of_addMember {read : Reader Value} {ms ms' : List (String × Value)} {name : String}
    {s r : List UInt8} (h : addMember read ms name s = .ok (ms', r)) :
    ∃ v, ms' = insert name v ms := by
  obtain ⟨_, _, h⟩ := bind_eq_ok.mp h
  obtain ⟨⟨v, _⟩, _, h⟩ := bind_eq_ok.mp h
  cases h
  exact ⟨v, rfl⟩

theorem addMember_kept {P : Value → Prop} {depth : Nat}
    (hvalue : ∀ s v r, value depth s = .ok (v, r) → P v) {ms ms' : List (String × Value)}
    {name : String} {s r : List UInt8} (hms : Kept P ms)
    (h : addMember (value depth) ms name s = .ok (ms', r)) : Kept P ms' := by
  obtain ⟨t, _, h⟩ := bind_eq_ok.mp h
  obtain ⟨⟨v, u⟩, hv, h⟩ := bind_eq_ok.mp h
  cases h
  refine ⟨insert_ascending name v hms.1, fun m hm => ?_⟩
  rcases entry_of_mem_insert hm with rfl | hm
  · exact hvalue _ _ _ hv
  · exact hms.2 m hm

theorem value_read (depth : Nat) :
    ∀ s v r, value depth s = .ok (v, r) → v.Fits depth ∧ v.Ordered := by
  induction depth with
  | zero =>
    intro s v r h
    obtain ⟨⟨opening, u⟩, _, h⟩ := bind_eq_ok.mp h
    cases opening with
    | scalar t =>
      cases h
      exact ⟨trivial, .scalar t⟩
    | array => cases h
    | object => cases h
  | succ depth ih =>
    intro s v r h
    obtain ⟨⟨opening, u⟩, _, h⟩ := bind_eq_ok.mp h
    cases opening with
    | scalar t =>
      cases h
      exact ⟨trivial, .scalar t⟩
    | array =>
      obtain ⟨⟨vs, u'⟩, hvs, h⟩ := map_eq_ok.mp h
      cases h
      have hall := elements_invariant ih _ _ _ _ _ hvs
      exact ⟨fun w hw => (hall w hw).1, .array fun w hw => (hall w hw).2⟩
    | object =>
      obtain ⟨⟨ms, u'⟩, hms, h⟩ := map_eq_ok.mp h
      cases h
      have hkept : Kept (fun v => v.Fits depth ∧ v.Ordered) ms :=
        members_invariant (fun ms name s ms' r hms h => addMember_kept ih hms h) _ _ _ _ _ _
          ⟨List.Pairwise.nil, fun _ hm => absurd hm List.not_mem_nil⟩ hms
      exact ⟨fun m hm => (hkept.2 m hm).1, .object hkept.1 fun m hm => (hkept.2 m hm).2⟩

end BearerCheck.Json
