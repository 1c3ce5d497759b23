import BearerCheck.Proofs.Token.Members

namespace BearerCheck.Token

open Json Text Dictionary

namespace Header

theorem read_print (h : Header) : read h.print = .ok h := by
  obtain ⟨algorithm, keyId⟩ := h
  have halg : Takes (record.step ([], ⟨"", none⟩) "alg") (Ascii.colon :: quote algorithm)
      (["alg"], ⟨algorithm, none⟩) := by
    refine Record.step_takes rfl List.not_mem_nil fun b rest _ => ?_
    exact map_eq_ok.mpr ⟨_, string_quote algorithm (b :: rest), rfl⟩
  cases keyId with
  | none => exact document_objectOf (.cons halg (.nil _))
  | some k =>
    have hkid : Takes (record.step (["alg"], ⟨algorithm, none⟩) "kid") (Ascii.colon :: quote k)
        (["kid", "alg"], ⟨algorithm, some k⟩) := by
      refine Record.step_takes rfl (by decide) fun b rest _ => ?_
      exact map_eq_ok.mpr ⟨_, value_of_start (start_quote k (b :: rest)) _, rfl⟩
    exact document_objectOf (.cons halg (.cons hkid (.nil _)))

end Header

namespace Claims

structure Canonical (c : Claims) : Prop where
  kept : Kept (fun v => v.Fits (depthLimit - 1) ∧ v.Ordered) c.other
  unregistered : ∀ name ∈ c.other.map (·.1), name ∉ registered

theorem empty_canonical : empty.Canonical where
  kept := ⟨List.Pairwise.nil, fun _ hm => absurd hm List.not_mem_nil⟩
  unregistered := fun _ hname => absurd hname List.not_mem_nil

theorem member?_eq_some {name : String} (h : name ∈ registered) :
    ∃ f, record.member? name = some f := by
  simp only [registered, List.mem_cons, List.not_mem_nil, or_false] at h
  rcases h with rfl | rfl | rfl | rfl <;> exact ⟨_, rfl⟩

theorem known_keeps_other (f : Member Claims) (hf : f ∈ record.known) :
    Record.Keeps Claims.other f.read := by
  intro c s c' r hread
  simp only [record, List.mem_cons, List.not_mem_nil, or_false] at hf
  rcases hf with rfl | rfl | rfl | rfl
  all_goals
    obtain ⟨_, _, he⟩ := map_eq_ok.mp hread
    cases he
    rfl

theorem known_canonical (f : Member Claims) (hf : f ∈ record.known) (c : Claims) (s : List UInt8)
    (c' : Claims) (r : List UInt8) (hc : c.Canonical) (h : f.read c s = .ok (c', r)) :
    c'.Canonical := by
  have hother := known_keeps_other f hf c s c' r h
  exact ⟨hother ▸ hc.kept, hother ▸ hc.unregistered⟩

theorem keep_canonical (name : String) (hname : record.member? name = none) (c : Claims)
    (s : List UInt8) (c' : Claims) (r : List UInt8) (hc : c.Canonical)
    (h : keep c name s = .ok (c', r)) : c'.Canonical := by
  obtain ⟨⟨ms, u⟩, hms, he⟩ := map_eq_ok.mp h
  cases he
  refine ⟨addMember_kept (value_read _) hc.kept hms, fun key hkey hreg => ?_⟩
  obtain ⟨v, rfl⟩ := eq_insert_of_addMember hms
  rcases (mem_insert _ _ _ _).mp hkey with rfl | hkey
  · obtain ⟨f, hf⟩ := member?_eq_some hreg
    rw [hf] at hname
    cases hname
  · exact hc.unregistered key hkey hreg

theorem read_canonical {bytes : List UInt8} {c : Claims} (h : read bytes = .ok c) :
    c.Canonical := by
  obtain ⟨r, hread, _⟩ := document_eq_ok.mp h
  exact Record.read_invariant rfl known_canonical keep_canonical empty_canonical hread

def registeredMembers (c : Claims) : List (String × Value) :=
  (c.subject.map fun s => ("sub", Value.scalar (.string s))).toList ++
  (c.issuedAt.map fun t => ("iat", Value.scalar (.number (.real t)))).toList ++
  (c.expiresAt.map fun t => ("exp", Value.scalar (.number (.real t)))).toList ++
  (c.issuer.map fun s => ("iss", Value.scalar (.string s))).toList

def members (c : Claims) : List (String × Value) := c.registeredMembers ++ c.other

section Optional

variable {α : Type} (name : String) (value : α → Value) (x : Option α)

theorem printMembers_optional : printMembers (x.map fun a => (name, value a)).toList =
    (x.map fun a => (name, (value a).print)).toList := by
  cases x <;> rfl

theorem optional_names : ((x.map fun a => (name, value a)).toList.map (·.1)).Sublist [name] := by
  cases x <;> simp

theorem last?_optional (key : String) : last? key (x.map fun a => (name, value a)).toList =
    if name = key then x.map value else none := by
  cases x with
  | none => exact (ite_self none).symm
  | some a => exact last?_concat key [] (name, value a)

end Optional

theorem print_eq (c : Claims) : c.print = (Value.object c.members).print := by
  rw [Value.print, members, registeredMembers]
  simp only [printMembers_append, printMembers_optional]
  rfl

theorem registeredMembers_names (c : Claims) :
    (c.registeredMembers.map (·.1)).Sublist registered := by
  unfold registeredMembers
  simp only [List.map_append]
  exact (((optional_names ..).append (optional_names ..)).append (optional_names ..)).append
    (optional_names ..)

theorem Canonical.members_nodup {c : Claims} (h : c.Canonical) : (c.members.map (·.1)).Nodup := by
  have hother : (c.other.map (·.1)).Nodup := List.pairwise_map.mpr (h.kept.1.imp fun hlt => hlt.ne)
  have hregistered : (c.registeredMembers.map (·.1)).Nodup :=
    (registeredMembers_names c).nodup (by decide)
  rw [members, List.map_append]
  refine List.nodup_append.mpr ⟨hregistered, hother, fun name hname key hkey he => ?_⟩
  exact h.unregistered key hkey (he ▸ (registeredMembers_names c).subset hname)

theorem Canonical.last?_members {c : Claims} (h : c.Canonical) {name : String}
    (hname : name ∈ registered) : last? name c.members = last? name c.registeredMembers := by
  have hother : last? name c.other = none := by
    refine last?_eq_none fun m hm he => ?_
    exact h.unregistered m.1 (List.mem_map_of_mem hm) (he ▸ hname)
  rw [members, last?_append, hother, Option.none_or]

theorem Canonical.others_members {c : Claims} (h : c.Canonical) : others c.members = c.other := by
  have hregistered : (c.registeredMembers.filter fun m => m.1 ∉ registered) = [] := by
    refine List.filter_eq_nil_iff.mpr fun m hm => ?_
    simpa using (registeredMembers_names c).subset (List.mem_map_of_mem hm)
  have hother : (c.other.filter fun m => m.1 ∉ registered) = c.other := by
    refine List.filter_eq_self.mpr fun m hm => ?_
    simpa using h.unregistered m.1 (List.mem_map_of_mem hm)
  rw [others, members, List.filter_append, hregistered, hother, List.nil_append]
  have hnormal : (c.other.map fun m => (m.1, m.2.normal)) = c.other.map id :=
    List.map_congr_left fun m hm => Prod.ext rfl (h.kept.2 m hm).2.normal_eq
  rw [hnormal, List.map_id]

theorem texts_bind (x : Option String) :
    (x.map fun s => Value.scalar (.string s)).bind text? = x := by
  cases x <;> rfl

theorem times_bind (x : Option Float) :
    (x.map fun t => Value.scalar (.number (.real t))).bind time? = x := by
  cases x <;> rfl

theorem Canonical.ofMembers_members {c : Claims} (h : c.Canonical) : ofMembers c.members = c := by
  rw [ofMembers, h.others_members, ofList_of_ascending h.kept.1,
    h.last?_members (by decide : "sub" ∈ registered),
    h.last?_members (by decide : "iat" ∈ registered),
    h.last?_members (by decide : "exp" ∈ registered),
    h.last?_members (by decide : "iss" ∈ registered)]
  obtain ⟨subject, issuedAt, expiresAt, issuer, other⟩ := c
  simp [registeredMembers, last?_append, last?_optional, texts_bind, times_bind]

theorem mem_registeredMembers {c : Claims} {m : String × Value} : m ∈ c.registeredMembers ↔
    (∃ s, c.subject = some s ∧ ("sub", .scalar (.string s)) = m) ∨
    (∃ t, c.issuedAt = some t ∧ ("iat", .scalar (.number (.real t))) = m) ∨
    (∃ t, c.expiresAt = some t ∧ ("exp", .scalar (.number (.real t))) = m) ∨
    ∃ s, c.issuer = some s ∧ ("iss", .scalar (.string s)) = m := by
  simp only [registeredMembers, List.mem_append, Option.mem_toList, Option.map_eq_some_iff,
    or_assoc]

theorem Canonical.members_acceptable {c : Claims} (h : c.Canonical) : Acceptable c.members where
  once := fun name _ => List.nodup_iff_count.mp h.members_nodup name
  types := by
    intro m hm hname
    rcases List.mem_append.mp hm with hm | hm
    · rcases mem_registeredMembers.mp hm with ⟨s, _, rfl⟩ | ⟨t, _, rfl⟩ | ⟨t, _, rfl⟩ | ⟨s, _, rfl⟩ <;>
        simp [HasType]
    · exact absurd hname (h.unregistered m.1 (List.mem_map_of_mem hm))

theorem Canonical.members_fits {c : Claims} (h : c.Canonical) :
    (Value.object c.members).Fits depthLimit := by
  intro m hm
  rcases List.mem_append.mp hm with hm | hm
  · rcases mem_registeredMembers.mp hm with ⟨s, _, rfl⟩ | ⟨t, _, rfl⟩ | ⟨t, _, rfl⟩ | ⟨s, _, rfl⟩ <;>
      trivial
  · exact (h.kept.2 m hm).1

theorem members_whole {c : Claims} (hiat : c.issuedAt = none) (hexp : c.expiresAt = none)
    (hother : ∀ m ∈ c.other, m.2.Whole) : (Value.object c.members).Whole := by
  refine .object fun m hm => ?_
  rcases List.mem_append.mp hm with hm | hm
  · rcases mem_registeredMembers.mp hm with ⟨s, _, rfl⟩ | ⟨t, ht, rfl⟩ | ⟨t, ht, rfl⟩ | ⟨s, _, rfl⟩
    · exact .scalar (by simp)
    · simp [hiat] at ht
    · simp [hexp] at ht
    · exact .scalar (by simp)
  · exact hother m hm

theorem Canonical.read_print {c : Claims} (h : c.Canonical) (hiat : c.issuedAt = none)
    (hexp : c.expiresAt = none) (hother : ∀ m ∈ c.other, m.2.Whole) : read c.print = .ok c := by
  rw [print_eq, (read_object h.members_fits (members_whole hiat hexp hother)).1 h.members_acceptable,
    h.ofMembers_members]

end Claims

def compact (h : Header) (c : Claims) : String :=
  String.ofList (encodeSegment h.print ++ '.' :: encodeSegment c.print)

theorem segments_compact (h : Header) (c : Claims) :
    segments (compact h c).toList = [encodeSegment h.print, encodeSegment c.print] := by
  rw [compact, String.toList_ofList, segments_cons (dot_not_mem_encodeSegment _),
    segments_last (dot_not_mem_encodeSegment _)]

theorem decode_compact {token : String} {h : Header} {c : Claims} (hd : decode token = .ok (h, c)) :
    (∀ name ∈ c.other.map (·.1), name ∉ Claims.registered) ∧
      c.print = (Value.object c.members).print ∧ (c.members.map (·.1)).Nodup ∧
      (c.issuedAt = none → c.expiresAt = none → (∀ m ∈ c.other, m.2.Whole) →
        decode (compact h c) = .ok (h, c)) := by
  obtain ⟨hs, ps, rest, _, _, hc⟩ := decode_eq_ok.mp hd
  obtain ⟨bytes, _, hread⟩ := readSegment_eq_ok.mp hc
  have hcanonical := Claims.read_canonical hread
  refine ⟨hcanonical.unregistered, c.print_eq, hcanonical.members_nodup, fun hiat hexp hother => ?_⟩
  refine decode_eq_ok.mpr ⟨_, _, _, segments_compact h c, ?_, ?_⟩
  · rw [readSegment_encodeSegment, Header.read_print]
    rfl
  · rw [readSegment_encodeSegment, hcanonical.read_print hiat hexp hother]
    rfl

theorem decode_compact_alice :
    let token := "eyJhbGciOiJIUzI1NiIsImtpZCI6ImsxIiwidHlwIjoiSldUIn0." ++
      "eyJyb2xlIjpbIngiLHRydWVdLCJpYXQiOm51bGwsInN1YiI6ImFsaWNlIiwiYWdlIjp7ImIiOm51bGwsImEiOi0yfX0"
    let h : Header := ⟨"HS256", some "k1"⟩
    let c : Claims := ⟨some "alice", none, none, none, [
      ("age", .object [("a", .scalar (.number (.integer ⟨-2, by decide⟩))), ("b", .scalar .null)]),
      ("role", .array [.scalar (.string "x"), .scalar (.bool true)])]⟩
    decode token = .ok (h, c) ∧ decode (compact h c) = .ok (h, c) := by
  intro token h c
  let ms : List (String × Value) := [
    ("role", .array [.scalar (.string "x"), .scalar (.bool true)]),
    ("iat", .scalar .null), ("sub", .scalar (.string "alice")),
    ("age", .object [("b", .scalar .null), ("a", .scalar (.number (.integer ⟨-2, by decide⟩)))])]
  have hscalar (s : Scalar) (hs : ∀ x, s ≠ .number (.real x)) : (Value.scalar s).Whole := .scalar hs
  have hd : decode token = .ok (h, c) := by
    have hms : Claims.ofMembers ms = c := by
      have hab : "a" < "b" := by decide
      have hage : "age" < "role" := by decide
      simp [ms, c, Claims.ofMembers, Claims.others, Claims.registered, Value.normal,
        Value.normalAll, Value.normalMembers, ofList, insertAll, Dictionary.insert, last?,
        Claims.text?, Claims.time?, Value.take, Scalar.string?, Scalar.float?, hab, hage,
        -String.lt_iff_ltb]
    rw [← hms]
    have hsegments : segments token.toList =
        ["eyJhbGciOiJIUzI1NiIsImtpZCI6ImsxIiwidHlwIjoiSldUIn0".toList,
          encodeSegment (Value.object ms).print] := by
      decide +kernel
    refine (decode_ofMembers hsegments ?_ ?_ ?_).1 ⟨?_, ?_⟩
    · decide +kernel
    · simp [ms, Value.Fits, depthLimit]
    · exact .object (by simp [ms, hscalar, Value.Whole.object, Value.Whole.array])
    · decide
    · simp [ms, Claims.registered, Claims.HasType]
  refine ⟨hd, (decode_compact hd).2.2.2 rfl rfl ?_⟩
  simp [c, hscalar, Value.Whole.object, Value.Whole.array]

end BearerCheck.Token
