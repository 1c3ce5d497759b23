import BearerCheck.Proofs.Service.Lines

namespace BearerCheck.Service

open Text

def handle (v : Verifier) (now : Int64) (q : Request) : Response :=
  .ofStatus (v.verify now q.token).status

def reply (v : Verifier) (now : Int64) (line : List UInt8) : Response :=
  match Request.read line with
  | .ok q => handle v now q
  | .error _ => ⟨false, 2⟩

def lookups (v : Verifier) (now : Int64) (line : List UInt8) : List Call :=
  match Request.read line with
  | .ok q => (v.verify now q.token).calls
  | .error _ => []

theorem answer_eq (v : Verifier) (now : Int64) (line : List UInt8) :
    answer v now line = ⟨reply v now line, lookups v now line, !(Request.read line).isOk⟩ := by
  unfold answer reply lookups
  cases Request.read line <;> rfl

def replies (v : Verifier) (clock : Nat → Int64) (lines : List (List UInt8)) : List Response :=
  lines.mapIdx fun i line => reply v (clock i) line

def allLookups (v : Verifier) (clock : Nat → Int64) (lines : List (List UInt8)) : List Call :=
  (lines.mapIdx fun i line => lookups v (clock i) line).flatten

def writeAll (rs : List Response) : List UInt8 := rs.flatMap fun r => r.print ++ [Ascii.lineFeed]

theorem replies_cons (v : Verifier) (clock : Nat → Int64) (line : List UInt8)
    (lines : List (List UInt8)) :
    replies v clock (line :: lines) =
      reply v (clock 0) line :: replies v (fun i => clock (i + 1)) lines := by
  simp [replies, List.mapIdx_cons]

theorem allLookups_cons (v : Verifier) (clock : Nat → Int64) (line : List UInt8)
    (lines : List (List UInt8)) :
    allLookups v clock (line :: lines) =
      lookups v (clock 0) line ++ allLookups v (fun i => clock (i + 1)) lines := by
  simp [allLookups, List.mapIdx_cons]

theorem countP_cons_toNat {α : Type} (p : α → Bool) (x : α) (xs : List α) :
    (x :: xs).countP p = (p x).toNat + xs.countP p := by
  rw [List.countP_cons, Nat.add_comm]
  cases p x <;> rfl

theorem serveLines_unbounded (v : Verifier) (clock : Nat → Int64) (lines : List (List UInt8)) :
    ∀ tally : Tally, serveLines v clock tally none lines =
      let later := fun i => clock (tally.requests + i)
      ⟨writeAll (replies v later lines), allLookups v later lines,
        .ok ⟨tally.requests + lines.length,
          tally.accepted + (replies v later lines).countP (·.success),
          tally.malformed + lines.countP fun line => !(Request.read line).isOk⟩⟩ := by
  induction lines with
  | nil =>
    intro tally
    rfl
  | cons line lines ih =>
    intro tally
    have hnext : (fun i => clock (tally.requests + (i + 1))) =
        fun i => clock (tally.requests + 1 + i) := by
      funext i
      rw [Nat.add_assoc, Nat.add_comm 1]
    simp only [serveLines, roomAfter, ih, Tally.add, answer_eq, replies_cons, allLookups_cons,
      hnext, Nat.add_zero, writeAll, List.flatMap_cons, Answer.line, countP_cons_toNat,
      List.length_cons, Nat.add_assoc, Nat.add_comm 1]

theorem serve_splits (v : Verifier) (clock : Nat → Int64) (input : List UInt8) :
    let lines := requestLines input
    let responses := lines.mapIdx fun i line => reply v (clock i) line
    serve v clock none input =
      ⟨responses.flatMap fun r => r.print ++ [Ascii.lineFeed],
        (lines.mapIdx fun i line => lookups v (clock i) line).flatten,
        .ok ⟨lines.length, responses.countP (·.success),
          lines.countP fun line => !(Request.read line).isOk⟩⟩ := by
  intro lines responses
  rw [serve_eq_serveLines, serveLines_unbounded]
  simp only [Nat.zero_add]
  rfl

example :
    (serve ⟨⟨[], [], 60⟩, none⟩ (fun _ => 0) none
      (Utf8.encode "\n \t\nx\n\x7b\"token\":\"\"\x7d")).written =
      Utf8.encode "\x7b\"success\":false,\"status\":2\x7d\n\x7b\"success\":false,\"status\":1\x7d\n" := by
  decide +kernel

end BearerCheck.Service
