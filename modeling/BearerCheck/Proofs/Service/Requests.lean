import BearerCheck.Proofs.Json.Object
import BearerCheck.Proofs.Service.Answers

namespace BearerCheck.Service

open Json Text

theorem Request.read_print (q : Request) : Request.read q.print = .ok q := by
  refine document_objectOf
    (.cons (Record.step_takes rfl List.not_mem_nil fun b rest _ => ?_) (.nil _))
  change (string (quote q.token ++ b :: rest)).map _ = _
  rw [string_quote]
  rfl

theorem member_printable {name : String} {text : List UInt8} (h : ∀ b ∈ text, 0x20 ≤ b) :
    ∀ b ∈ member (name, text), 0x20 ≤ b := by
  intro b hb
  rw [member, List.mem_append, List.mem_cons] at hb
  rcases hb with hb | rfl | hb
  · exact quote_printable name b hb
  · decide
  · exact h b hb

theorem Request.print_eq (q : Request) :
    q.print = Ascii.openBrace :: (member ("token", quote q.token) ++ [Ascii.closeBrace]) := by
  simp [print, objectOf]

theorem Request.lineFeed_not_mem (q : Request) : Ascii.lineFeed ∉ q.print := by
  intro hmem
  rw [print_eq, List.mem_cons, List.mem_append, List.mem_singleton] at hmem
  rcases hmem with h | h | h
  · exact absurd h (by decide)
  · exact absurd (member_printable (quote_printable q.token) _ h) (by decide)
  · exact absurd h (by decide)

theorem requestOf_print (q : Request) : requestOf q.print = [q.print] := by
  have hopen : isLineBlank Ascii.openBrace = false := rfl
  have hclose : isLineBlank Ascii.closeBrace = false := rfl
  have htrim : trim isLineBlank q.print = q.print := by
    rw [q.print_eq]
    exact trim_eq_self hopen hclose _
  have hblank : ¬ q.print.all isLineBlank := by simp [q.print_eq, hopen]
  rw [requestOf, if_neg hblank, htrim]

theorem requestLines_print (qs : List Request) :
    requestLines (qs.flatMap fun q => q.print ++ [Ascii.lineFeed]) = qs.map Request.print := by
  induction qs with
  | nil => exact requestLines_nil
  | cons q qs ih =>
    rw [List.flatMap_cons, List.append_assoc, List.singleton_append,
      requestLines_line q.lineFeed_not_mem, requestOf_print, ih]
    rfl

theorem reply_print (v : Verifier) (now : Int64) (q : Request) :
    reply v now q.print = handle v now q := by
  rw [reply, q.read_print]

theorem replies_print (v : Verifier) (clock : Nat → Int64) (qs : List Request) :
    replies v clock (qs.map Request.print) = qs.mapIdx fun i q => handle v (clock i) q := by
  refine List.mapIdx_eq_iff.mpr fun i => ?_
  simp only [List.getElem?_mapIdx, List.getElem?_map, Option.map_map, Function.comp_def, reply_print]

theorem Response.read?_print (s : Status) :
    Response.read? (Response.ofStatus s).print = some (.ofStatus s) := by
  cases s <;> rfl

theorem Response.lineFeed_not_mem (s : Status) : Ascii.lineFeed ∉ (Response.ofStatus s).print := by
  cases s <;> decide +kernel

theorem splitOn_lines (ls : List (List UInt8)) (h : ∀ l ∈ ls, Ascii.lineFeed ∉ l) :
    (ls.flatMap (· ++ [Ascii.lineFeed])).splitOn Ascii.lineFeed = ls ++ [[]] := by
  induction ls with
  | nil => rfl
  | cons l ls ih =>
    rw [List.flatMap_cons, List.append_assoc, List.singleton_append,
      List.splitOn_append_cons_self_of_not_mem (h l (by simp)),
      ih fun l hl => h l (List.mem_cons_of_mem _ hl)]
    rfl

theorem serve_requests (v : Verifier) (clock : Nat → Int64) (qs : List Request) :
    let responses := qs.mapIdx fun i q => handle v (clock i) q
    let t := serve v clock none (qs.flatMap fun q => q.print ++ [Ascii.lineFeed])
    t.written.splitOn Ascii.lineFeed = responses.map Response.print ++ [[]] ∧
      (t.written.splitOn Ascii.lineFeed).dropLast.map Response.read? = responses.map some ∧
      t.ending = .ok ⟨qs.length, responses.countP (·.success), 0⟩ := by
  intro responses t
  have hstatus : ∀ r ∈ responses, ∃ s, r = .ofStatus s := by
    intro r hr
    obtain ⟨i, _, rfl⟩ := List.mem_mapIdx.mp hr
    exact ⟨_, rfl⟩
  have ht : t = ⟨writeAll responses, allLookups v clock (qs.map Request.print),
      .ok ⟨qs.length, responses.countP (·.success), 0⟩⟩ := by
    have hmalformed : (qs.map Request.print).countP (fun line => !(Request.read line).isOk) = 0 := by
      simp [List.countP_map, Function.comp_def, Request.read_print, Except.isOk, Except.toBool]
    simp only [t, responses, serve_eq_serveLines, requestLines_print, serveLines_unbounded,
      replies_print, hmalformed, Nat.zero_add, List.length_map]
  have hlines : t.written.splitOn Ascii.lineFeed = responses.map Response.print ++ [[]] := by
    have hwritten : writeAll responses =
        (responses.map Response.print).flatMap (· ++ [Ascii.lineFeed]) := by
      rw [writeAll, List.flatMap_map]
    rw [ht, hwritten]
    apply splitOn_lines
    intro l hl
    obtain ⟨r, hr, rfl⟩ := List.mem_map.mp hl
    obtain ⟨s, rfl⟩ := hstatus r hr
    exact Response.lineFeed_not_mem s
  refine ⟨hlines, ?_, by rw [ht]⟩
  rw [hlines, List.dropLast_concat, List.map_map]
  apply List.map_congr_left
  intro r hr
  obtain ⟨s, rfl⟩ := hstatus r hr
  exact Response.read?_print s

end BearerCheck.Service
