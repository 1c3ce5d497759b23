import BearerCheck.Proofs.Token.Segments
import BearerCheck.Verifier.Basic

namespace BearerCheck

open Token

namespace Token

theorem decode_of_segments {token : String} {hs ps : List Char} {rest : List (List Char)}
    (h : segments token.toList = hs :: ps :: rest) :
    decode token = readSegment Header.read .header hs >>= fun header =>
      readSegment Claims.read .payload ps >>= fun claims => .ok (header, claims) := by
  unfold decode
  rw [h]

theorem decode_of_last {token : String} (h : '.' ∉ token.toList) :
    decode token = .error (.missingSegments 1) := by
  unfold decode
  rw [segments_last h]
  rfl

theorem segments_point (h rest : String) (hh : '.' ∉ h.toList) :
    segments (h ++ "." ++ rest).toList = h.toList :: segments rest.toList := by
  rw [String.toList_append, String.toList_append, List.append_assoc]
  exact segments_cons hh rest.toList

theorem segments_ne_nil (s : List Char) : segments s ≠ [] := by
  cases s with
  | nil => simp [segments]
  | cons c s =>
    rw [segments]
    split
    · exact List.cons_ne_nil _ _
    · split <;> exact List.cons_ne_nil _ _

theorem decode_header_error {h : String} (hh : '.' ∉ h.toList) {e : Error}
    (he : readSegment Header.read .header h.toList = .error e) (rest : String) :
    decode (h ++ "." ++ rest) = .error e := by
  obtain ⟨ps, pss, hrest⟩ := List.exists_cons_of_ne_nil (segments_ne_nil rest.toList)
  have hsegments := segments_point h rest hh
  rw [hrest] at hsegments
  rw [decode_of_segments hsegments, he]
  rfl

theorem readSegment_error {α : Type} {read : List UInt8 → Except Json.Error α} {name : Segment}
    {segment : List Char} {e : Error} (he : readSegment read name segment = .error e) :
    (∃ cause, e = .base64 name cause) ∨ ∃ cause, e = .json name cause := by
  rcases bind_eq_error.mp he with h | ⟨bytes, _, h⟩
  · obtain ⟨cause, _, rfl⟩ := mapError_eq_error.mp h
    exact Or.inl ⟨cause, rfl⟩
  · obtain ⟨cause, _, rfl⟩ := mapError_eq_error.mp h
    exact Or.inr ⟨cause, rfl⟩

end Token

namespace Verifier

theorem verify_congr (v : Verifier) (now : Int64) {token token' : String} (hne : token ≠ "")
    (hne' : token' ≠ "") (hd : decode token = decode token') :
    v.verify now token = v.verify now token' := by
  simp only [verify, hne, hne', hd]

theorem point_ne_empty (h rest : String) : h ++ "." ++ rest ≠ "" := by
  intro he
  have := congrArg String.toList he
  simp at this

theorem signature_never_read (h p s : String) (hh : '.' ∉ h.toList) (hp : '.' ∉ p.toList) :
    decode (h ++ "." ++ p ++ "." ++ s) = decode (h ++ "." ++ p) ∧
    (∀ (v : Verifier) (now : Int64),
      v.verify now (h ++ "." ++ p ++ "." ++ s) = v.verify now (h ++ "." ++ p)) ∧
    (∀ e, readSegment Header.read .header h.toList = .error e →
      ((∃ cause, e = .base64 .header cause) ∨ ∃ cause, e = .json .header cause) ∧
        ∀ rest, decode (h ++ "." ++ rest) = .error e) ∧
    decode h = .error (.missingSegments 1) := by
  have hassoc : h ++ "." ++ p ++ "." ++ s = h ++ "." ++ (p ++ "." ++ s) := by
    simp only [String.append_assoc]
  have hlong : segments (h ++ "." ++ p ++ "." ++ s).toList =
      h.toList :: p.toList :: segments s.toList := by
    rw [hassoc, segments_point h _ hh, segments_point p s hp]
  have hshort : segments (h ++ "." ++ p).toList = [h.toList, p.toList] := by
    rw [segments_point h p hh, segments_last hp]
  have hd : decode (h ++ "." ++ p ++ "." ++ s) = decode (h ++ "." ++ p) := by
    rw [decode_of_segments hlong, decode_of_segments hshort]
  refine ⟨hd, fun v now => ?_, fun e he => ⟨readSegment_error he, decode_header_error hh he⟩,
    decode_of_last hh⟩
  exact v.verify_congr now (hassoc ▸ point_ne_empty h _) (point_ne_empty h p) hd

theorem signature_never_read_points :
    '.' ∉ "e30".toList ∧ '.' ∉ "bm8".toList ∧
      decode ("e30" ++ "." ++ "bm8" ++ "." ++ ".=!.") = decode ("e30" ++ "." ++ "bm8") ∧
      (∀ (v : Verifier) (now : Int64),
        v.verify now ("e30" ++ "." ++ "bm8" ++ "." ++ ".=!.") =
          v.verify now ("e30" ++ "." ++ "bm8")) ∧
      (∀ e, readSegment Header.read .header "e30".toList = .error e →
        ((∃ cause, e = .base64 .header cause) ∨ ∃ cause, e = .json .header cause) ∧
          ∀ rest, decode ("e30" ++ "." ++ rest) = .error e) ∧
      decode "e30" = .error (.missingSegments 1) := by
  have hh : '.' ∉ "e30".toList := by decide
  have hp : '.' ∉ "bm8".toList := by decide
  exact ⟨hh, hp, signature_never_read "e30" "bm8" ".=!." hh hp⟩

end Verifier

end BearerCheck
