import BearerCheck.Proofs.Json.Value

namespace BearerCheck.Json

open Text

variable {α : Type}

def ofScalar (expected : String) (take : Scalar → Option α) : Reader α := fun s =>
  match start s with
  | .ok (.scalar v, r) =>
    match take v with
    | some x => .ok (x, r)
    | none => .error (mismatch expected s)
  | _ => .error (mismatch expected s)

def Scalar.string? : Scalar → Option String
  | .string t => some t
  | _ => none

def Scalar.float? : Scalar → Option Float
  | .number n => some n.toFloat
  | _ => none

theorem string_eq : string = ofScalar "a string" Scalar.string? := by
  funext s
  unfold string ofScalar
  rcases start s with e | ⟨⟨v⟩ | _ | _, r⟩
  · rfl
  · cases v <;> rfl
  · rfl
  · rfl

theorem real_eq : real = ofScalar "f64" Scalar.float? := by
  funext s
  unfold real ofScalar
  rcases start s with e | ⟨⟨v⟩ | _ | _, r⟩
  · rfl
  · cases v <;> rfl
  · rfl
  · rfl

def Value.take (take : Scalar → Option α) : Value → Option α
  | .scalar s => take s
  | _ => none

def Value.found : Value → Found
  | .scalar s => .scalar s
  | .array _ => .sequence
  | .object _ => .map

def typed (expected : String) (take : Scalar → Option α) : Value → Except Error (Option α)
  | .scalar .null => .ok none
  | v =>
    match v.take take with
    | some x => .ok (some x)
    | none => .error (.wrongType v.found expected)

theorem typed_ok {expected : String} {take : Scalar → Option α} {v : Value} (hnull : take .null = none)
    (h : v = .scalar .null ∨ ∃ x, v.take take = some x) :
    typed expected take v = .ok (v.take take) := by
  unfold typed
  rcases h with rfl | ⟨x, hx⟩
  · exact congrArg Except.ok hnull.symm
  · split
    · exact congrArg Except.ok hnull.symm
    · simp only [hx]

theorem typed_error {expected : String} {take : Scalar → Option α} {v : Value}
    (hv : v ≠ .scalar .null) (htake : v.take take = none) :
    typed expected take v = .error (.wrongType v.found expected) := by
  unfold typed
  split
  · exact absurd rfl hv
  · simp only [htake]

theorem typed_cases {expected : String} {take : Scalar → Option α} {v : Value}
    (hnull : take .null = none) :
    ((v = .scalar .null ∨ ∃ x, v.take take = some x) → typed expected take v = .ok (v.take take)) ∧
      (¬ (v = .scalar .null ∨ ∃ x, v.take take = some x) →
        ∃ e, typed expected take v = .error e) := by
  refine ⟨typed_ok hnull, fun h => ?_⟩
  rw [not_or, not_exists] at h
  exact ⟨_, typed_error h.1 (Option.eq_none_iff_forall_ne_some.mpr h.2)⟩

theorem start_print {v : Value} (hv : v.Whole) {b : UInt8} (hb : EndsValue b) (rest : List UInt8) :
    (∃ s, v = .scalar s ∧ start (v.print ++ b :: rest) = .ok (.scalar s, b :: rest)) ∨
      (∃ vs r, v = .array vs ∧ start (v.print ++ b :: rest) = .ok (.array, r)) ∨
        ∃ ms r, v = .object ms ∧ start (v.print ++ b :: rest) = .ok (.object, r) := by
  cases hv with
  | scalar hs => exact Or.inl ⟨_, rfl, start_print_scalar hs hb rest⟩
  | array _ => exact Or.inr (Or.inl ⟨_, _, rfl, start_arrayOf _ _⟩)
  | object _ => exact Or.inr (Or.inr ⟨_, _, rfl, start_objectOf _ _⟩)

theorem optional_answers {v : Value} (hv : v.Whole) (expected : String) (take : Scalar → Option α) :
    Answers (Json.optional (ofScalar expected take)) v.print (typed expected take v) := by
  intro b rest hb
  rcases start_print hv hb rest with ⟨s, rfl, hstart⟩ | ⟨vs, r, rfl, hstart⟩ | ⟨ms, r, rfl, hstart⟩
  · cases s with
    | null => simp only [Json.optional, hstart, typed, Except.map]
    | _ =>
      simp only [Json.optional, ofScalar, mismatch, hstart, typed, Value.take, Value.found]
      split <;> simp_all [Except.map]
  · simp only [Json.optional, ofScalar, mismatch, hstart, Except.map, typed, Value.take, Value.found]
  · simp only [Json.optional, ofScalar, mismatch, hstart, Except.map, typed, Value.take, Value.found]

end BearerCheck.Json
