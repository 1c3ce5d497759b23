import BearerCheck.Proofs.Json.Number
import BearerCheck.Proofs.Json.Quoted
import BearerCheck.Proofs.Json.Record

namespace BearerCheck.Json

open Text

variable {σ : Type}

/-- A reader takes a text off the front, if what follows cannot be a part of a number. -/
def Takes {α : Type} (read : Reader α) (text : List UInt8) (x : α) : Prop :=
  ∀ b rest, b = Ascii.comma ∨ b = Ascii.closeBrace ∨ b = Ascii.closeBracket →
    read (text ++ b :: rest) = .ok (x, b :: rest)

def Answers {α : Type} (read : Reader α) (text : List UInt8) (result : Except Error α) : Prop :=
  ∀ b rest, EndsValue b → read (text ++ b :: rest) = result.map fun x => (x, b :: rest)

theorem Takes.answers {α : Type} {read : Reader α} {text : List UInt8} {x : α}
    (h : Takes read text x) : Answers read text (.ok x) := h

inductive TakesAll (step : σ → String → Reader σ) : σ → List (String × List UInt8) → σ → Prop
  | nil (x : σ) : TakesAll step x [] x
  | cons {x y z : σ} {name : String} {text : List UInt8} {ms : List (String × List UInt8)} :
      Takes (step x name) (Ascii.colon :: text) y → TakesAll step y ms z →
        TakesAll step x ((name, text) :: ms) z

theorem member_eq (name : String) (text rest : List UInt8) :
    member (name, text) ++ rest =
      Ascii.quote :: (quoteTail name ++ (Ascii.colon :: text ++ rest)) := by
  simp [member, quote_eq]

theorem memberTurn_first (name : String) (text rest : List UInt8) :
    memberTurn true (member (name, text) ++ rest) =
      .ok (.next (quoteTail name ++ (Ascii.colon :: text ++ rest))) := by
  rw [member_eq]
  rfl

theorem memberTurn_next (name : String) (text rest : List UInt8) :
    memberTurn false (Ascii.comma :: (member (name, text) ++ rest)) =
      .ok (.next (quoteTail name ++ (Ascii.colon :: text ++ rest))) := by
  rw [member_eq]
  rfl

theorem memberTurn_close (first : Bool) (rest : List UInt8) :
    memberTurn first (Ascii.closeBrace :: rest) = .ok (.close rest) := by
  cases first <;> rfl

def membersTail (ms : List (String × List UInt8)) : List UInt8 :=
  ms.flatMap (Ascii.comma :: member ·) ++ [Ascii.closeBrace]

theorem membersTail_head (ms : List (String × List UInt8)) (rest : List UInt8) :
    ∃ b t, membersTail ms ++ rest = b :: t ∧ EndsValue b := by
  cases ms with
  | nil => exact ⟨_, _, rfl, Or.inr (Or.inl rfl)⟩
  | cons m ms => exact ⟨_, _, rfl, Or.inl rfl⟩

theorem Answers.beforeTail {α : Type} {read : Reader α} {text : List UInt8} {result : Except Error α}
    (h : Answers read text result) (ms : List (String × List UInt8)) (rest : List UInt8) :
    read (text ++ (membersTail ms ++ rest)) = result.map fun x => (x, membersTail ms ++ rest) := by
  obtain ⟨b, t, he, hb⟩ := membersTail_head ms rest
  rw [he]
  exact h b t hb

theorem members_close (step : σ → String → Reader σ) (n : Nat) (first : Bool) (x : σ)
    (rest : List UInt8) :
    members step (n + 1) first x (Ascii.closeBrace :: rest) = .ok (x, rest) :=
  members_eq_ok.mpr (Or.inl ⟨memberTurn_close _ _, rfl⟩)

theorem members_cons {step : σ → String → Reader σ} {x : σ} {name : String} {text : List UInt8}
    {result : Except Error σ} (h : Answers (step x name) (Ascii.colon :: text) result)
    (ms : List (String × List UInt8)) (n : Nat) (rest : List UInt8) :
    members step (n + 1) false x (membersTail ((name, text) :: ms) ++ rest) =
      result >>= fun y => members step n false y (membersTail ms ++ rest) := by
  have hnext : membersTail ((name, text) :: ms) ++ rest =
      Ascii.comma :: (member (name, text) ++ (membersTail ms ++ rest)) := by
    simp [membersTail]
  have hread := h.beforeTail ms rest
  rw [hnext, members, memberTurn_next]
  simp only [bind, Except.bind, stringText_quoteTail, hread]
  cases result <;> rfl

theorem members_membersTail {step : σ → String → Reader σ} {x y : σ}
    {ms : List (String × List UInt8)} (h : TakesAll step x ms y) (rest : List UInt8) :
    ∀ n, ms.length < n → members step n false x (membersTail ms ++ rest) = .ok (y, rest) := by
  induction h with
  | nil x =>
    intro n hn
    cases n with
    | zero => omega
    | succ n => exact members_close step n false x rest
  | cons hm hms ih =>
    intro n hn
    cases n with
    | zero => omega
    | succ n =>
      rw [members_cons hm.answers]
      exact ih n (by simpa using hn)

theorem membersTail_length (ms : List (String × List UInt8)) :
    ms.length < (membersTail ms).length := by
  induction ms with
  | nil => simp [membersTail]
  | cons m ms ih =>
    simp only [membersTail, List.flatMap_cons, List.length_append, List.length_cons] at *
    omega

def objectTail : List (String × List UInt8) → List UInt8
  | [] => [Ascii.closeBrace]
  | m :: ms => member m ++ membersTail ms

theorem objectOf_eq (ms : List (String × List UInt8)) :
    objectOf ms = Ascii.openBrace :: objectTail ms := by
  cases ms with
  | nil => rfl
  | cons m ms => simp [objectOf, objectTail, membersTail]

theorem members_first (step : σ → String → Reader σ) (n : Nat) (x : σ)
    (m : String × List UInt8) (ms : List (String × List UInt8)) (rest : List UInt8) :
    members step n true x (objectTail (m :: ms) ++ rest) =
      members step n false x (membersTail (m :: ms) ++ rest) := by
  obtain ⟨name, text⟩ := m
  have hfirst : objectTail ((name, text) :: ms) ++ rest =
      member (name, text) ++ (membersTail ms ++ rest) := by
    simp [objectTail]
  have hnext : membersTail ((name, text) :: ms) ++ rest =
      Ascii.comma :: (member (name, text) ++ (membersTail ms ++ rest)) := by
    simp [membersTail]
  cases n with
  | zero => rfl
  | succ n => rw [members, members, hfirst, hnext, memberTurn_first, memberTurn_next]

theorem objectTail_length (m : String × List UInt8) (ms : List (String × List UInt8)) :
    (m :: ms).length ≤ (objectTail (m :: ms)).length := by
  have := membersTail_length ms
  simp only [objectTail, List.length_append, List.length_cons] at *
  omega

theorem objectOfMembers_objectTail {step : σ → String → Reader σ} {x y : σ}
    {ms : List (String × List UInt8)} (h : TakesAll step x ms y) (rest : List UInt8) :
    objectOfMembers step x (objectTail ms ++ rest) = .ok (y, rest) := by
  unfold objectOfMembers
  cases ms with
  | nil =>
    cases h
    exact members_close step _ true x rest
  | cons m ms =>
    have := objectTail_length m ms
    rw [members_first]
    refine members_membersTail h rest _ ?_
    rw [List.length_append]
    omega

section Fold

variable {α : Type} {text : α → List UInt8} {step : σ → String → Reader σ}
  {f : σ → String × α → Except Error σ}

def named (text : α → List UInt8) (ms : List (String × α)) : List (String × List UInt8) :=
  ms.map fun m => (m.1, text m.2)

theorem named_cons (m : String × α) (ms : List (String × α)) :
    named text (m :: ms) = (m.1, text m.2) :: named text ms := rfl

theorem members_fold {ms : List (String × α)}
    (h : ∀ x, ∀ m ∈ ms, Answers (step x m.1) (Ascii.colon :: text m.2) (f x m)) (rest : List UInt8) :
    ∀ n x, ms.length < n → members step n false x (membersTail (named text ms) ++ rest) =
      (ms.foldlM f x).map fun y => (y, rest) := by
  induction ms with
  | nil =>
    intro n x hn
    cases n with
    | zero => omega
    | succ n => exact members_close step n false x rest
  | cons m ms ih =>
    intro n x hn
    cases n with
    | zero => omega
    | succ n =>
      have hm := h x m List.mem_cons_self
      have hms := ih (fun x m' hm' => h x m' (List.mem_cons_of_mem _ hm')) n
      rw [named_cons, members_cons hm, List.foldlM_cons]
      cases f x m with
      | error e => rfl
      | ok y => exact hms y (by simpa using hn)

theorem objectOfMembers_fold {ms : List (String × α)}
    (h : ∀ x, ∀ m ∈ ms, Answers (step x m.1) (Ascii.colon :: text m.2) (f x m)) (x : σ)
    (rest : List UInt8) :
    objectOfMembers step x (objectTail (named text ms) ++ rest) =
      (ms.foldlM f x).map fun y => (y, rest) := by
  unfold objectOfMembers
  cases ms with
  | nil => exact members_close step _ true x rest
  | cons m ms =>
    have hlength : (named text ms).length = ms.length := List.length_map _
    have := objectTail_length (m.1, text m.2) (named text ms)
    rw [named_cons, members_first, ← named_cons]
    refine members_fold h rest _ x ?_
    simp only [named_cons, List.length_append, List.length_cons, hlength] at this ⊢
    omega

end Fold

theorem start_objectOf (ms : List (String × List UInt8)) (rest : List UInt8) :
    start (objectOf ms ++ rest) = .ok (.object, objectTail ms ++ rest) := by
  rw [objectOf_eq]
  rfl

theorem afterColon_colon (rest : List UInt8) : afterColon (Ascii.colon :: rest) = .ok rest := rfl

namespace Record

theorem read_objectOf {d : Record σ} {x y : σ} {ns : List String} {ms : List (String × List UInt8)}
    (h : TakesAll d.step ([], x) ms (ns, y)) (rest : List UInt8) :
    d.read x (objectOf ms ++ rest) = .ok (y, rest) := by
  unfold read
  simp only [start_objectOf, objectOfMembers_objectTail h, Except.map]

theorem step_answers {d : Record σ} {f : Member σ} {name : String} {ns : List String} {x : σ}
    {text : List UInt8} {result : Except Error σ} (hf : d.member? name = some f)
    (h : Answers (f.read x) text result) :
    Answers (d.step (ns, x) name) (Ascii.colon :: text)
      (if name ∈ ns then .error (.duplicate name) else result.map fun y => (name :: ns, y)) := by
  intro b rest hb
  have hread := h b rest hb
  unfold step
  simp only [hf, List.cons_append, afterColon_colon]
  split_ifs
  · rfl
  · simp only [bind, Except.bind, hread]
    cases result <;> rfl

theorem step_answers_other {d : Record σ} {name : String} {ns : List String} {x : σ}
    {text : List UInt8} {result : Except Error σ} (hf : d.member? name = none)
    (h : Answers (d.other x name) (Ascii.colon :: text) result) :
    Answers (d.step (ns, x) name) (Ascii.colon :: text) (result.map fun y => (ns, y)) := by
  intro b rest hb
  have hread := h b rest hb
  unfold step
  simp only [hf, bind, Except.bind, hread]
  cases result <;> rfl

theorem step_takes {d : Record σ} {f : Member σ} {name : String} {ns : List String} {x y : σ}
    {text : List UInt8} (hf : d.member? name = some f) (hns : name ∉ ns)
    (h : Takes (f.read x) text y) :
    Takes (d.step (ns, x) name) (Ascii.colon :: text) (name :: ns, y) := by
  have hstep : Answers (d.step (ns, x) name) (Ascii.colon :: text) _ := step_answers hf h.answers
  rw [if_neg hns] at hstep
  exact hstep

end Record

theorem document_objectOf {d : Record σ} {x y : σ} {ns : List String}
    {ms : List (String × List UInt8)} (h : TakesAll d.step ([], x) ms (ns, y)) :
    document (d.read x) (objectOf ms) = .ok y := by
  have hread := Record.read_objectOf h []
  rw [List.append_nil] at hread
  exact document_eq_ok.mpr ⟨[], hread, rfl⟩

theorem document_fold {α : Type} {text : α → List UInt8} {d : Record σ}
    {f : List String × σ → String × α → Except Error (List String × σ)} {ms : List (String × α)}
    (h : ∀ x, ∀ m ∈ ms, Answers (d.step x m.1) (Ascii.colon :: text m.2) (f x m)) (x : σ) :
    document (d.read x) (objectOf (named text ms)) = (ms.foldlM f ([], x)).map (·.2) := by
  have hstart := start_objectOf (named text ms) []
  have hread := objectOfMembers_fold h ([], x) []
  simp only [List.append_nil] at hstart hread
  unfold document Record.read
  simp only [hstart, hread, bind, Except.bind]
  cases ms.foldlM f ([], x) <;> rfl

end BearerCheck.Json
