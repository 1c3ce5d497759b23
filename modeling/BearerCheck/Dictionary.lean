/-!
Finite maps from names, kept as a list in ascending order of the names. Names are compared by code
points, which is also the order of their UTF-8 bytes.
-/

namespace BearerCheck.Dictionary

variable {α : Type}

def insert (k : String) (v : α) : List (String × α) → List (String × α)
  | [] => [(k, v)]
  | (j, w) :: r =>
    if k = j then (k, v) :: r
    else if k < j then (k, v) :: (j, w) :: r
    else (j, w) :: insert k v r

def insertAll (d : List (String × α)) (entries : List (String × α)) : List (String × α) :=
  entries.foldl (fun d e => insert e.1 e.2 d) d

def find? (k : String) : List (String × α) → Option α
  | [] => none
  | (j, w) :: r => if k = j then some w else find? k r

def ofList (entries : List (String × α)) : List (String × α) := insertAll [] entries

def names (ns : List String) : List String := (ofList (ns.map (·, ()))).map (·.1)

theorem insertAll_append (d es fs : List (String × α)) :
    insertAll d (es ++ fs) = insertAll (insertAll d es) fs := by
  simp [insertAll]

theorem mem_insert (k : String) (v : α) (d : List (String × α)) (j : String) :
    j ∈ (insert k v d).map (·.1) ↔ j = k ∨ j ∈ d.map (·.1) := by
  induction d with
  | nil => simp [insert]
  | cons e r ih =>
    obtain ⟨i, w⟩ := e
    simp only [insert]
    split
    · next h => simp [h]
    · split
      · simp
      · simp only [List.map_cons, List.mem_cons, ih]
        constructor <;> rintro (h | h | h) <;> simp [h]

theorem mem_names (ns : List String) (n : String) : n ∈ names ns ↔ n ∈ ns := by
  have h : ∀ (es d : List (String × Unit)),
      n ∈ (insertAll d es).map (·.1) ↔ n ∈ es.map (·.1) ∨ n ∈ d.map (·.1) := by
    intro es
    induction es with
    | nil => simp [insertAll]
    | cons e es ih =>
      intro d
      have := ih (insert e.1 e.2 d)
      simp only [insertAll, List.foldl_cons] at this ⊢
      rw [this, mem_insert, List.map_cons, List.mem_cons, or_left_comm, or_assoc]
  simp [names, ofList, h]

end BearerCheck.Dictionary
