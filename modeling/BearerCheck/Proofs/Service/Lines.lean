import BearerCheck.Proofs.Text.Trim
import BearerCheck.Service.Session

/-!
A session as a run over the lines of its input. The lines are found without looking at how the
session reads: the input is cut at the line feeds, blank pieces are dropped, the others trimmed.
-/

namespace BearerCheck.Service

open Text

def requestLines (input : List UInt8) : List (List UInt8) :=
  ((input.splitOn Ascii.lineFeed).filter (fun piece => !piece.all isLineBlank)).map
    (trim isLineBlank)

def serveLines (v : Verifier) (clock : Nat → Int64) :
    Tally → Option Nat → List (List UInt8) → Transcript
  | tally, _, [] => ⟨[], [], .ok tally⟩
  | tally, room, line :: lines =>
    let a := answer v (clock tally.requests) line
    match roomAfter room a.line.length with
    | none => ⟨a.line.take (room.getD 0), a.calls, .error outputFull⟩
    | some room =>
      let later := serveLines v clock (tally.add a) room lines
      ⟨a.line ++ later.written, a.calls ++ later.calls, later.ending⟩

theorem requestLines_nil : requestLines [] = [] := by
  simp [requestLines, List.splitOn_nil]

def requestOf (piece : List UInt8) : List (List UInt8) :=
  if piece.all isLineBlank then [] else [trim isLineBlank piece]

theorem requestLines_of_splitOn {input piece : List UInt8} {pieces : List (List UInt8)}
    (h : input.splitOn Ascii.lineFeed = piece :: pieces) :
    requestLines input =
      requestOf piece ++
        (pieces.filter (fun p => !p.all isLineBlank)).map (trim isLineBlank) := by
  unfold requestLines requestOf
  rw [h]
  by_cases hb : piece.all isLineBlank = true
  · simp [hb]
  · simp [hb]

theorem requestLines_line {line rest : List UInt8} (hline : Ascii.lineFeed ∉ line) :
    requestLines (line ++ Ascii.lineFeed :: rest) = requestOf line ++ requestLines rest :=
  requestLines_of_splitOn (List.splitOn_append_cons_self_of_not_mem hline rest)

theorem requestLines_last {line : List UInt8} (hline : Ascii.lineFeed ∉ line) :
    requestLines line = requestOf line := by
  rw [requestLines_of_splitOn (List.splitOn_eq_singleton hline)]
  simp

section Line

variable {line : List UInt8} (hline : Ascii.lineFeed ∉ line)

include hline

theorem decide_ne_lineFeed : ∀ b ∈ line, decide (b ≠ Ascii.lineFeed) = true := by
  intro b hb
  exact decide_eq_true (ne_of_mem_of_not_mem hb hline)

theorem takeLine_last : takeLine line = (line, []) := by
  have hpart := decide_ne_lineFeed hline
  rw [takeLine, List.takeWhile_eq_self_iff.mpr hpart, List.dropWhile_eq_nil_iff.mpr hpart,
    List.drop_nil]

theorem takeLine_line (rest : List UInt8) :
    takeLine (line ++ Ascii.lineFeed :: rest) = (line, rest) := by
  have hpart := decide_ne_lineFeed hline
  rw [takeLine, List.takeWhile_append_of_pos hpart, List.dropWhile_append_of_pos hpart]
  simp

end Line

theorem requestLines_takeLine (input : List UInt8) :
    requestLines input = requestOf (takeLine input).1 ++ requestLines (takeLine input).2 := by
  by_cases hmem : Ascii.lineFeed ∈ input
  · obtain ⟨line, rest, rfl, hline⟩ := List.eq_append_cons_of_mem hmem
    rw [takeLine_line hline, requestLines_line hline]
  · rw [takeLine_last hmem, requestLines_last hmem, requestLines_nil, List.append_nil]

theorem takeLine_shorter (b : UInt8) (input : List UInt8) :
    (takeLine (b :: input)).2.length ≤ input.length := by
  have h := List.length_dropWhile_le (fun b => decide (b ≠ Ascii.lineFeed)) (b :: input)
  simp only [takeLine, List.length_drop, List.length_cons] at *
  omega

section Step

variable (v : Verifier) (now : Int64)

theorem step_eq (input : List UInt8) :
    step v now input =
      ((requestOf (takeLine input).1).head?.map (answer v now), (takeLine input).2) := by
  have hmiddle := middle_eq_trim isLineBlank (takeLine input).1
  unfold step requestOf
  split_ifs with hblank
  · have htrim := (trim_eq_nil_iff _).mpr (List.all_eq_true.mp hblank)
    simp only [hmiddle, htrim, List.head?_nil, Option.map_none]
  · have htrim := mt (trim_eq_nil_iff _).mp (mt List.all_eq_true.mpr hblank)
    obtain ⟨c, cs, hc⟩ := List.exists_cons_of_ne_nil htrim
    simp only [hmiddle, hc, List.head?_cons, Option.map_some]

-- so a line may be answered before what is behind it has been read
theorem step_line {line : List UInt8} (hline : Ascii.lineFeed ∉ line) (rest : List UInt8) :
    step v now (line ++ Ascii.lineFeed :: rest) =
      ((step v now (line ++ [Ascii.lineFeed])).1, rest) := by
  rw [step_eq, step_eq, takeLine_line hline, takeLine_line hline]

end Step

theorem run_eq_serveLines (v : Verifier) (clock : Nat → Int64) :
    ∀ (n : Nat) (tally : Tally) (room : Option Nat) (input : List UInt8), input.length ≤ n →
      run v clock n tally room input = serveLines v clock tally room (requestLines input)
  | 0, tally, room, input, hn => by
    obtain rfl : input = [] := List.length_eq_zero_iff.mp (by omega)
    rw [requestLines_nil]
    rfl
  | n + 1, tally, room, [], _ => by
    rw [requestLines_nil]
    rfl
  | n + 1, tally, room, b :: input, hn => by
    have hrest : (takeLine (b :: input)).2.length ≤ n :=
      (takeLine_shorter b input).trans (by simpa using hn)
    -- the tally and the room only grow and shrink with what is answered, so both stay general
    have ih (tally : Tally) (room : Option Nat) :=
      run_eq_serveLines v clock n tally room (takeLine (b :: input)).2 hrest
    rw [requestLines_takeLine, run, step_eq]
    unfold requestOf
    split_ifs with hblank
    · exact ih tally room
    · simp only [List.head?_cons, Option.map_some, List.singleton_append, serveLines]
      cases roomAfter room (answer v (clock tally.requests) _).line.length with
      | none => rfl
      | some left => simp only [ih]

theorem serve_eq_serveLines (v : Verifier) (clock : Nat → Int64) (room : Option Nat)
    (input : List UInt8) :
    serve v clock room input = serveLines v clock ⟨0, 0, 0⟩ room (requestLines input) :=
  run_eq_serveLines v clock _ _ _ _ le_rfl

end BearerCheck.Service
