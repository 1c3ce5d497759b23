import BearerCheck.Proofs.Service.Answers
import Mathlib.Order.Basic

/-!
A session whose output has a bounded room, beside the same session with no bound. As long as
everything fits they do not differ. Otherwise the bounded one stops in the first response that does
not fit, and nothing behind that line plays a part.
-/

namespace BearerCheck.Service

theorem serveLines_fits (v : Verifier) (clock : Nat → Int64) (lines : List (List UInt8)) :
    ∀ (tally : Tally) (n : Nat), (serveLines v clock tally none lines).written.length ≤ n →
      serveLines v clock tally (some n) lines = serveLines v clock tally none lines := by
  induction lines with
  | nil =>
    intro tally n _
    rfl
  | cons line lines ih =>
    intro tally n hn
    simp only [serveLines, roomAfter, List.length_append] at hn ⊢
    have hfits : (answer v (clock tally.requests) line).line.length ≤ n := by omega
    simp only [hfits, ↓reduceIte]
    rw [ih _ _ (by omega)]

theorem writeAll_cons (r : Response) (rs : List Response) :
    writeAll (r :: rs) = r.print ++ [Text.Ascii.lineFeed] ++ writeAll rs := rfl

theorem writeAll_length_cons (r : Response) (rs : List Response) :
    (writeAll (r :: rs)).length = r.print.length + 1 + (writeAll rs).length := by
  simp [writeAll_cons]
  omega

theorem writeAll_replies_cons (v : Verifier) (clock : Nat → Int64) (line : List UInt8)
    (lines : List (List UInt8)) : writeAll (replies v clock (line :: lines)) =
      (answer v (clock 0) line).line ++ writeAll (replies v (fun i => clock (i + 1)) lines) := by
  rw [replies_cons, writeAll_cons, answer_eq]
  rfl

theorem allLookups_answer_cons (v : Verifier) (clock : Nat → Int64) (line : List UInt8)
    (lines : List (List UInt8)) : allLookups v clock (line :: lines) =
      (answer v (clock 0) line).calls ++ allLookups v (fun i => clock (i + 1)) lines := by
  rw [allLookups_cons, answer_eq]

theorem serveLines_stops (v : Verifier) (clock : Nat → Int64) (line : List UInt8)
    (left done : List (List UInt8)) :
    ∀ (tally : Tally) (n : Nat),
      let later := fun i => clock (tally.requests + i)
      (writeAll (replies v later done)).length ≤ n →
      n < (writeAll (replies v later (done ++ [line]))).length →
      serveLines v clock tally (some n) (done ++ line :: left) =
        ⟨(writeAll (replies v later (done ++ [line]))).take n,
          allLookups v later (done ++ [line]), .error outputFull⟩ := by
  induction done with
  | nil =>
    intro tally n later _ hn
    let a := answer v (clock tally.requests) line
    have hwritten : writeAll (replies v later [line]) = a.line :=
      (writeAll_replies_cons v later line []).trans (List.append_nil _)
    have hlookups : allLookups v later [line] = a.calls :=
      (allLookups_answer_cons v later line []).trans (List.append_nil _)
    rw [List.nil_append, hwritten] at hn
    rw [List.nil_append, List.nil_append, hwritten, hlookups]
    simp only [serveLines, roomAfter, a, Nat.not_le.mpr hn, ↓reduceIte, Option.getD_some]
  | cons first done ih =>
    -- the first response fits whole, and leaves so much less room to the others
    intro tally n later hdone hn
    let a := answer v (clock tally.requests) first
    have hlater : (fun i => clock ((tally.add a).requests + i)) = fun i => later (i + 1) := by
      funext i
      simp only [later, Tally.add, Nat.add_assoc, Nat.add_comm 1]
    have hwritten (lines : List (List UInt8)) : writeAll (replies v later (first :: lines)) =
        a.line ++ writeAll (replies v (fun i => later (i + 1)) lines) :=
      writeAll_replies_cons v later first lines
    rw [hwritten, List.length_append] at hdone
    rw [List.cons_append, hwritten, List.length_append] at hn
    have hroom : roomAfter (some n) a.line.length = some (some (n - a.line.length)) := by
      rw [roomAfter, if_pos (by omega)]
    have hrest := ih (tally.add a) (n - a.line.length)
    simp only [hlater] at hrest
    rw [List.cons_append, List.cons_append, hwritten, allLookups_answer_cons, List.take_append,
      List.take_of_length_le (by omega)]
    simp only [serveLines, hroom, a]
    rw [hrest (by omega) (by omega)]
    rfl

theorem exists_cut (n : Nat) (rs : List Response) (hn : n < (writeAll rs).length) :
    ∃ i < rs.length, (writeAll (rs.take i)).length ≤ n ∧ n < (writeAll (rs.take (i + 1))).length := by
  induction rs generalizing n with
  | nil => simp [writeAll] at hn
  | cons r rs ih =>
    rw [writeAll_length_cons] at hn
    rcases Nat.lt_or_ge n (r.print.length + 1) with hr | hr
    · refine ⟨0, by simp, by simp [writeAll], ?_⟩
      rw [List.take_succ_cons, writeAll_length_cons]
      omega
    · obtain ⟨i, hi, hlow, hhigh⟩ := ih (n - (r.print.length + 1)) (by omega)
      refine ⟨i + 1, by simpa using hi, ?_, ?_⟩
      · rw [List.take_succ_cons, writeAll_length_cons]
        omega
      · rw [List.take_succ_cons, writeAll_length_cons]
        omega

theorem replies_take (v : Verifier) (clock : Nat → Int64) (lines : List (List UInt8)) (i : Nat) :
    (replies v clock lines).take i = replies v clock (lines.take i) := by
  apply List.ext_getElem?
  intro k
  simp only [replies, List.getElem?_take, List.getElem?_mapIdx]
  split_ifs <;> rfl

theorem serve_stops (v : Verifier) (clock : Nat → Int64) {n i : Nat} {input : List UInt8}
    (hi : i < (requestLines input).length)
    (hlow : (writeAll (replies v clock ((requestLines input).take i))).length ≤ n)
    (hhigh : n < (writeAll (replies v clock ((requestLines input).take (i + 1)))).length) :
    serve v clock (some n) input =
      ⟨(writeAll (replies v clock ((requestLines input).take (i + 1)))).take n,
        allLookups v clock ((requestLines input).take (i + 1)), .error outputFull⟩ := by
  have hlines : (requestLines input).take i ++ (requestLines input)[i] ::
      (requestLines input).drop (i + 1) = requestLines input := by
    rw [← List.drop_eq_getElem_cons hi, List.take_append_drop]
  have htake : (requestLines input).take (i + 1) =
      (requestLines input).take i ++ [(requestLines input)[i]] := List.take_succ_eq_append_getElem hi
  have hstops := serveLines_stops v clock (requestLines input)[i]
    ((requestLines input).drop (i + 1)) ((requestLines input).take i) ⟨0, 0, 0⟩ n
  simp only [Nat.zero_add, hlines, ← htake] at hstops
  rw [serve_eq_serveLines]
  exact hstops hlow hhigh

theorem writeAll_take (n k : Nat) (rs : List Response) (hn : n ≤ (writeAll (rs.take k)).length) :
    (writeAll rs).take n = (writeAll (rs.take k)).take n := by
  have hsplit : writeAll rs = writeAll (rs.take k) ++ writeAll (rs.drop k) := by
    rw [writeAll, writeAll, writeAll, ← List.flatMap_append, List.take_append_drop]
  rw [hsplit, List.take_append_of_le_length hn]

theorem replies_congr (v : Verifier) {clock clock' : Nat → Int64} {lines : List (List UInt8)}
    {i : Nat} (hclock : ∀ k ≤ i, clock' k = clock k) (hi : lines.length ≤ i + 1) :
    replies v clock' lines = replies v clock lines := by
  refine List.mapIdx_eq_mapIdx_iff.mpr fun k hk => ?_
  rw [hclock k (by omega)]

theorem allLookups_congr (v : Verifier) {clock clock' : Nat → Int64} {lines : List (List UInt8)}
    {i : Nat} (hclock : ∀ k ≤ i, clock' k = clock k) (hi : lines.length ≤ i + 1) :
    allLookups v clock' lines = allLookups v clock lines := by
  refine congrArg List.flatten (List.mapIdx_eq_mapIdx_iff.mpr fun k hk => ?_)
  rw [hclock k (by omega)]

theorem serve_bounded (v : Verifier) (clock : Nat → Int64) (n : Nat) (input : List UInt8) :
    let lines := requestLines input
    let full := serve v clock none input
    (full.written.length ≤ n →
      serve v clock (some n) input = full ∧ ∃ tally, full.ending = .ok tally) ∧
    (n < full.written.length →
      ∃ i < lines.length,
        (writeAll (replies v clock (lines.take i))).length ≤ n ∧
        n < (writeAll (replies v clock (lines.take (i + 1)))).length ∧
        serve v clock (some n) input =
          ⟨full.written.take n, allLookups v clock (lines.take (i + 1)), .error outputFull⟩ ∧
        ∀ clock' input', (∀ k ≤ i, clock' k = clock k) →
          (requestLines input').take (i + 1) = lines.take (i + 1) →
          serve v clock' (some n) input' = serve v clock (some n) input) := by
  intro lines full
  have hfull : full = ⟨writeAll (replies v clock lines), allLookups v clock lines,
      full.ending⟩ ∧ ∃ tally, full.ending = .ok tally := by
    simp only [full, serve_eq_serveLines, serveLines_unbounded, Nat.zero_add]
    exact ⟨rfl, _, rfl⟩
  have hwritten : full.written = writeAll (replies v clock lines) := by rw [hfull.1]
  refine ⟨fun hn => ⟨?_, hfull.2⟩, fun hn => ?_⟩
  · simp only [full, serve_eq_serveLines] at hn ⊢
    exact serveLines_fits v clock lines _ n hn
  · rw [hwritten] at hn ⊢
    obtain ⟨i, hi, hlow, hhigh⟩ := exists_cut n _ hn
    -- from here on only the lines up to the cut are spoken of
    rw [writeAll_take n (i + 1) _ hhigh.le]
    rw [replies_take] at hlow hhigh ⊢
    have hi : i < lines.length := by simpa [replies] using hi
    have hstops := serve_stops v clock hi hlow hhigh
    refine ⟨i, hi, hlow, hhigh, hstops, fun clock' input' hclock hlines => ?_⟩
    have hi' : i < (requestLines input').length := by
      have := congrArg List.length hlines
      simp only [List.length_take] at this
      omega
    have hshort : (lines.take (i + 1)).length ≤ i + 1 := List.length_take_le _ _
    have hshort' : (lines.take i).length ≤ i + 1 := by
      rw [List.length_take]
      omega
    have hlines' : (requestLines input').take i = lines.take i := by
      have := congrArg (List.take i) hlines
      simpa [List.take_take] using this
    rw [hstops, serve_stops v clock' hi', hlines, replies_congr v hclock hshort,
      allLookups_congr v hclock hshort]
    · rw [hlines', replies_congr v hclock hshort']
      exact hlow
    · rw [hlines, replies_congr v hclock hshort]
      exact hhigh

end BearerCheck.Service
