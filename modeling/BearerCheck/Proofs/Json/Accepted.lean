import BearerCheck.Proofs.Json.Grammar
import BearerCheck.Proofs.Json.Typed

namespace BearerCheck.Json

open Text

def Closes : List Bracket → List UInt8 → List UInt8 → Prop
  | [], s, r => s = r
  | .array :: outer, s, r => ∃ t, ElementsAt false s t ∧ Closes outer t r
  | .object :: outer, s, r => ∃ t, MembersAt false s t ∧ Closes outer t r

def Place.Passes : Place → List Bracket → List UInt8 → List UInt8 → Prop
  | .opened, .array :: outer, s, r => ∃ t, ElementsAt true s t ∧ Closes outer t r
  | .opened, .object :: outer, s, r => ∃ t, MembersAt true s t ∧ Closes outer t r
  | .after, outer, s, r => Closes outer s r
  | _, outer, s, r => ∃ t, ValueAt s t ∧ Closes outer t r

section Step

variable {n : Nat} {outer : List Bracket} {s r : List UInt8}
  (rest : ∀ (place : Place) (outer : List Bracket) (s r : List UInt8),
    skimTo n place outer s = .ok r → place.Passes outer s r)

include rest

theorem skimTo_value (h : skimTo (n + 1) .value outer s = .ok r) :
    ∃ t, ValueAt s t ∧ Closes outer t r := by
  unfold skimTo at h
  split at h
  · cases h
  · next t ht =>
    obtain ⟨u, hu, hclose⟩ := rest _ _ _ _ h
    exact ⟨u, .array ht hu, hclose⟩
  · next t ht =>
    obtain ⟨u, hu, hclose⟩ := rest _ _ _ _ h
    exact ⟨u, .object ht hu, hclose⟩
  · next b t _ _ ht =>
    obtain ⟨u, hu, h⟩ := bind_eq_ok.mp h
    have hscalar : ScalarAt (skipSpace s) u := ht ▸ skimScalar_sound hu
    exact ⟨u, .scalar hscalar, rest _ _ _ _ h⟩

theorem skimTo_opened (h : skimTo (n + 1) .opened outer s = .ok r) :
    Place.opened.Passes outer s r := by
  unfold skimTo at h
  split at h
  · cases h
  · next ht => exact ⟨_, .close ht, rest _ _ _ _ h⟩
  · cases h
  · next ht => exact ⟨_, .close ht, rest _ _ _ _ h⟩
  · obtain ⟨t, hname, h⟩ := bind_eq_ok.mp h
    obtain ⟨u, hu, v, hv, hclose⟩ := rest _ _ _ _ h
    exact ⟨v, .next rfl (nameAt_skipSpace.mp (skimName_sound hname)) hu hv, hclose⟩
  · next outer _ _ hobject _ _ _ _ =>
    cases outer with
    | nil =>
      obtain ⟨u, hu, hclose⟩ := rest _ _ _ _ h
      exact ⟨u, valueAt_skipSpace.mp hu, hclose⟩
    | cons bracket outer =>
      cases bracket with
      | array =>
        obtain ⟨u, hu, v, hv, hclose⟩ := rest _ _ _ _ h
        exact ⟨v, .next rfl (valueAt_skipSpace.mp hu) hv, hclose⟩
      | object => exact absurd rfl (hobject outer)

theorem skimTo_after (h : skimTo (n + 1) .after outer s = .ok r) : Closes outer s r := by
  unfold skimTo at h
  split at h
  · cases h
    rfl
  · cases h
  · next ht =>
    obtain ⟨u, hu, v, hv, hclose⟩ := rest _ _ _ _ h
    exact ⟨v, .next ht hu hv, hclose⟩
  · next ht => exact ⟨_, .close ht, rest _ _ _ _ h⟩
  · cases h
  · cases h
  · next ht =>
    obtain ⟨t, hname, h⟩ := bind_eq_ok.mp h
    obtain ⟨u, hu, v, hv, hclose⟩ := rest _ _ _ _ h
    exact ⟨v, .next ht (skimName_sound hname) hu hv, hclose⟩
  · next ht => exact ⟨_, .close ht, rest _ _ _ _ h⟩
  · cases h

end Step

theorem skimTo_sound (n : Nat) : ∀ (place : Place) (outer : List Bracket) (s r : List UInt8),
    skimTo n place outer s = .ok r → place.Passes outer s r := by
  induction n with
  | zero =>
    intro place outer s r h
    cases h
  | succ n ih =>
    intro place outer s r h
    cases place with
    | value => exact skimTo_value ih h
    | opened => exact skimTo_opened ih h
    | after => exact skimTo_after ih h

theorem skim_sound {s r : List UInt8} (h : skim s = .ok r) : ValueAt s r := by
  obtain ⟨t, ht, rfl⟩ := skimTo_sound _ .value [] s r h
  exact ht

section Readers

variable {α σ : Type} {s r : List UInt8}

def TakesValue (read : Reader α) : Prop := ∀ s x r, read s = .ok (x, r) → ValueAt s r

def TakesMember (read : Reader α) : Prop :=
  ∀ s x r, read s = .ok (x, r) → ∃ t, skipSpace s = Ascii.colon :: t ∧ ValueAt t r

theorem start_sound {opening : Start} (h : start s = .ok (opening, r)) :
    match opening with
    | .scalar _ => ScalarAt (skipSpace s) r
    | .array => skipSpace s = Ascii.openBracket :: r
    | .object => skipSpace s = Ascii.openBrace :: r := by
  unfold start at h
  split at h
  · cases h
  · next ht =>
    cases h
    exact ht
  · next ht =>
    cases h
    exact ht
  · next ht =>
    obtain ⟨⟨v, u⟩, hv, h⟩ := map_eq_ok.mp h
    cases h
    exact ht ▸ scalar_sound hv

theorem valueAt_of_start {v : Scalar} (h : start s = .ok (.scalar v, r)) : ValueAt s r :=
  .scalar (start_sound h)

theorem elementTurn_sound {first : Bool} {turn : Turn} (h : elementTurn first s = .ok turn) :
    match turn with
    | .close r => skipSpace s = Ascii.closeBracket :: r
    | .next t => ∃ u, Separated first s u ∧ t = skipSpace u := by
  unfold elementTurn at h
  cases hs : skipSpace s with
  | nil => simp [hs] at h
  | cons b r =>
    simp only [hs] at h
    split_ifs at h with hclose hfirst hcomma
    · cases h
      rw [hclose]
    · cases h
      exact ⟨s, by simp [Separated, hfirst], hs.symm⟩
    · cases hr : skipSpace r with
      | nil => simp [hr] at h
      | cons c t =>
        simp only [hr] at h
        split_ifs at h
        cases h
        exact ⟨r, by simp [Separated, hfirst, hs, hcomma], hr.symm⟩

theorem memberTurn_sound {first : Bool} {turn : Turn} (h : memberTurn first s = .ok turn) :
    match turn with
    | .close r => skipSpace s = Ascii.closeBrace :: r
    | .next t => ∃ u, Separated first s u ∧ skipSpace u = Ascii.quote :: t := by
  unfold memberTurn at h
  cases hs : skipSpace s with
  | nil => simp [hs] at h
  | cons b r =>
    simp only [hs] at h
    split_ifs at h with hclose hfirst hquote hcomma
    · cases h
      rw [hclose]
    · cases h
      exact ⟨s, by simp [Separated, hfirst], by rw [hs, hquote]⟩
    · cases hr : skipSpace r with
      | nil => simp [hr] at h
      | cons c t =>
        simp only [hr] at h
        split_ifs at h with hquote
        cases h
        exact ⟨r, by simp [Separated, hfirst, hs, hcomma], by rw [hr, hquote]⟩

theorem elements_sound {item : Reader α} (hitem : TakesValue item) :
    ∀ (n : Nat) (first : Bool) (s : List UInt8) (xs : List α) (r : List UInt8),
      elements item n first s = .ok (xs, r) → ElementsAt first s r
  | 0, _, _, _, _, h => by cases h
  | n + 1, first, s, xs, r, h => by
    obtain ⟨turn, hturn, h⟩ := bind_eq_ok.mp h
    have hsound := elementTurn_sound hturn
    cases turn with
    | close t =>
      cases h
      exact .close hsound
    | next t =>
      obtain ⟨⟨x, u⟩, hx, h⟩ := bind_eq_ok.mp h
      obtain ⟨⟨ys, v⟩, hys, h⟩ := bind_eq_ok.mp h
      cases h
      obtain ⟨t', hsep, rfl⟩ := hsound
      exact .next hsep (valueAt_skipSpace.mp (hitem _ _ _ hx)) (elements_sound hitem n false _ _ _ hys)

theorem members_sound {step : σ → String → Reader σ} (hstep : ∀ x name, TakesMember (step x name)) :
    ∀ (n : Nat) (first : Bool) (x : σ) (s : List UInt8) (y : σ) (r : List UInt8),
      members step n first x s = .ok (y, r) → MembersAt first s r
  | 0, _, _, _, _, _, h => by cases h
  | n + 1, first, x, s, y, r, h => by
    rcases members_eq_ok.mp h with ⟨hturn, _⟩ | ⟨t, name, u, z, v, hturn, hname, hz, h⟩
    · exact .close (memberTurn_sound hturn)
    · obtain ⟨t', hsep, ht⟩ := memberTurn_sound hturn
      obtain ⟨w, hcolon, hvalue⟩ := hstep _ _ _ _ _ hz
      exact .next hsep ⟨t, u, ht, stringText_sound hname, hcolon⟩ hvalue
        (members_sound hstep n false z v y r h)

theorem addMember_takesMember {read : Reader Value} (hread : TakesValue read)
    (ms : List (String × Value)) (name : String) : TakesMember (addMember read ms name) := by
  intro s x r h
  obtain ⟨t, ht, h⟩ := bind_eq_ok.mp h
  obtain ⟨⟨v, u⟩, hv, h⟩ := bind_eq_ok.mp h
  cases h
  exact ⟨t, afterColon_eq_ok.mp ht, hread _ _ _ hv⟩

theorem valueBy_takesValue {array object : Reader Value}
    (harray : ∀ s v r, array s = .ok (v, r) → ElementsAt true s r)
    (hobject : ∀ s v r, object s = .ok (v, r) → MembersAt true s r) :
    TakesValue (valueBy array object) := by
  intro s v r h
  obtain ⟨⟨opening, t⟩, hstart, h⟩ := bind_eq_ok.mp h
  cases opening with
  | scalar w =>
    cases h
    exact valueAt_of_start hstart
  | array => exact .array (start_sound hstart) (harray t v r h)
  | object => exact .object (start_sound hstart) (hobject t v r h)

theorem value_takesValue (depth : Nat) : TakesValue (value depth) := by
  induction depth with
  | zero => exact valueBy_takesValue (fun s v r h => by cases h) (fun s v r h => by cases h)
  | succ depth ih =>
    apply valueBy_takesValue
    · intro s v r h
      obtain ⟨⟨vs, t⟩, hvs, h⟩ := map_eq_ok.mp h
      cases h
      exact elements_sound ih _ _ _ _ _ hvs
    · intro s v r h
      obtain ⟨⟨ms, t⟩, hms, h⟩ := map_eq_ok.mp h
      cases h
      exact members_sound (addMember_takesMember ih) _ _ _ _ _ _ hms

theorem ofScalar_takesValue (expected : String) (take : Scalar → Option α) :
    TakesValue (ofScalar expected take) := by
  intro s x r h
  unfold ofScalar at h
  split at h
  · next hstart =>
    split at h
    · cases h
      exact valueAt_of_start hstart
    · cases h
  · cases h

theorem string_takesValue : TakesValue string := string_eq ▸ ofScalar_takesValue _ _

theorem real_takesValue : TakesValue real := real_eq ▸ ofScalar_takesValue _ _

theorem optional_takesValue {read : Reader α} (hread : TakesValue read) :
    TakesValue (Json.optional read) := by
  intro s x r h
  unfold Json.optional at h
  split at h
  · next hstart =>
    cases h
    exact valueAt_of_start hstart
  · obtain ⟨⟨y, u⟩, hy, h⟩ := map_eq_ok.mp h
    cases h
    exact hread _ _ _ hy

theorem map_takesValue {read : Reader α} (hread : TakesValue read) (f : α → σ) :
    TakesValue fun s => (read s).map fun (x, r) => (f x, r) := by
  intro s y r h
  obtain ⟨⟨x, u⟩, hx, h⟩ := map_eq_ok.mp h
  cases h
  exact hread _ _ _ hx

theorem ignore_takesMember (x : σ) (name : String) : TakesMember (ignore x name) := by
  intro s y r h
  obtain ⟨t, ht, h⟩ := bind_eq_ok.mp h
  obtain ⟨u, hu, h⟩ := bind_eq_ok.mp h
  cases h
  exact ⟨t, afterColon_eq_ok.mp ht, skim_sound hu⟩

end Readers

namespace Record

variable {σ : Type} {d : Record σ} {s r : List UInt8}

structure TakesValues (d : Record σ) : Prop where
  known : ∀ f ∈ d.known, ∀ x, TakesValue (f.read x)
  other : ∀ x name, TakesMember (d.other x name)

theorem TakesValues.step (hd : d.TakesValues) (x : List String × σ) (name : String) :
    TakesMember (d.step x name) := by
  intro s y r h
  unfold Record.step at h
  split at h
  · next f hf =>
    split_ifs at h
    obtain ⟨t, ht, h⟩ := bind_eq_ok.mp h
    obtain ⟨⟨z, u⟩, hz, h⟩ := bind_eq_ok.mp h
    cases h
    exact ⟨t, afterColon_eq_ok.mp ht, hd.known f (member?_eq_some hf).1 _ _ _ _ hz⟩
  · obtain ⟨⟨z, u⟩, hz, h⟩ := bind_eq_ok.mp h
    cases h
    exact hd.other _ _ _ _ _ hz

theorem closeArray_sound (h : closeArray s = .ok r) : skipSpace s = Ascii.closeBracket :: r := by
  unfold closeArray at h
  cases hs : skipSpace s with
  | nil => simp [hs] at h
  | cons b t =>
    simp only [hs] at h
    split_ifs at h with hclose
    cases h
    rw [hclose]

theorem inOrder_sound {fs : List (Member σ)} (hfs : ∀ f ∈ fs, ∀ x, TakesValue (f.read x)) :
    ∀ (first : Bool) (x : σ) (s : List UInt8) (y : σ) (r : List UInt8),
      inOrder first x fs s = .ok (y, r) → ElementsAt first s r := by
  induction fs with
  | nil =>
    intro first x s y r h
    obtain ⟨t, ht, h⟩ := bind_eq_ok.mp h
    cases h
    exact .close (closeArray_sound ht)
  | cons f fs ih =>
    intro first x s y r h
    obtain ⟨turn, hturn, h⟩ := bind_eq_ok.mp h
    have hsound := elementTurn_sound hturn
    cases turn with
    | close t =>
      cases h
      exact .close hsound
    | next t =>
      obtain ⟨t', hsep, rfl⟩ := hsound
      obtain ⟨⟨z, u⟩, hz, h⟩ := bind_eq_ok.mp h
      have hvalue := hfs f List.mem_cons_self _ _ _ _ hz
      exact .next hsep (valueAt_skipSpace.mp hvalue)
        (ih (fun g hg => hfs g (List.mem_cons_of_mem _ hg)) false _ _ _ _ h)

theorem TakesValues.document (hd : d.TakesValues) {x y : σ} (h : document (d.read x) s = .ok y) :
    IsObject s ∨ (d.positional = true ∧ IsArray s) := by
  obtain ⟨r, hread, hend⟩ := document_eq_ok.mp h
  unfold Record.read at hread
  split at hread
  · next t hstart =>
    obtain ⟨⟨z, u⟩, hz, hread⟩ := map_eq_ok.mp hread
    cases hread
    exact Or.inl ⟨t, _, start_sound hstart, members_sound hd.step _ _ _ _ _ _ hz, hend⟩
  · next t hstart =>
    split_ifs at hread with hpositional
    exact Or.inr ⟨hpositional, t, r, start_sound hstart,
      inOrder_sound hd.known true x t y r hread, hend⟩
  · cases hread

end Record

end BearerCheck.Json
