import BearerCheck.Proofs.Json.Record
import BearerCheck.Token.Compact

namespace BearerCheck.Token

open Json

theorem readSegment_eq_ok {α : Type} {read : List UInt8 → Except Json.Error α} {name : Segment}
    {segment : List Char} {x : α} :
    readSegment read name segment = .ok x ↔
      ∃ bytes, segmentBytes name segment = .ok bytes ∧ read bytes = .ok x := by
  unfold readSegment
  rw [bind_eq_ok]
  simp only [mapError_eq_ok]

theorem decode_eq_ok {token : String} {h : Header} {c : Claims} :
    decode token = .ok (h, c) ↔
      ∃ hs ps rest, segments token.toList = hs :: ps :: rest ∧
        readSegment Header.read .header hs = .ok h ∧ readSegment Claims.read .payload ps = .ok c := by
  unfold decode
  constructor
  · intro hd
    split at hd
    · next hs ps rest he =>
      obtain ⟨h', hh, hd⟩ := bind_eq_ok.mp hd
      obtain ⟨c', hc, hd⟩ := bind_eq_ok.mp hd
      cases hd
      exact ⟨hs, ps, rest, he, hh, hc⟩
    · cases hd
  · rintro ⟨hs, ps, rest, he, hh, hc⟩
    simp only [he]
    exact bind_eq_ok.mpr ⟨h, hh, bind_eq_ok.mpr ⟨c, hc, rfl⟩⟩

theorem decode_empty : decode "" = .error (.missingSegments 1) := rfl

def headerNames? (token : String) : Option (List String) :=
  match segments token.toList with
  | hs :: _ => (segmentBytes .header hs).toOption.bind (Header.record.names? ⟨"", none⟩)
  | _ => none

def claimNames? (token : String) : Option (List String) :=
  match segments token.toList with
  | _ :: ps :: _ => (segmentBytes .payload ps).toOption.bind (Claims.record.names? .empty)
  | _ => none

theorem Header.keeps_algorithm (f : Member Header) (hf : f ∈ Header.record.known)
    (hne : f.name ≠ "alg") : Record.Keeps Header.algorithm f.read := by
  intro x s y r hr
  simp only [record, List.mem_cons, List.not_mem_nil, or_false] at hf
  rcases hf with rfl | rfl
  · exact absurd rfl hne
  · obtain ⟨v, _, he⟩ := map_eq_ok.mp hr
    cases he
    rfl

theorem Claims.keeps_subject (f : Member Claims) (hf : f ∈ Claims.record.known)
    (hne : f.name ≠ "sub") : Record.Keeps Claims.subject f.read := by
  intro x s y r hr
  simp only [record, List.mem_cons, List.not_mem_nil, or_false] at hf
  rcases hf with rfl | rfl | rfl | rfl
  · exact absurd rfl hne
  all_goals
    obtain ⟨v, _, he⟩ := map_eq_ok.mp hr
    cases he
    rfl

theorem ignore_keeps {σ β : Type} (part : σ → β) (name : String) :
    Record.Keeps part fun x => ignore x name := by
  intro x s y r hr
  obtain ⟨t, _, hr⟩ := bind_eq_ok.mp hr
  obtain ⟨u, _, hr⟩ := bind_eq_ok.mp hr
  cases hr
  rfl

theorem Claims.keep_keeps_subject (name : String) :
    Record.Keeps Claims.subject fun x => Claims.keep x name := by
  intro x s y r hr
  obtain ⟨v, _, he⟩ := map_eq_ok.mp hr
  cases he
  rfl

theorem alg_mem_headerNames {token : String} {h : Header} {c : Claims} {ns : List String}
    (hd : decode token = .ok (h, c)) (hns : headerNames? token = some ns) (hne : h.algorithm ≠ "") :
    "alg" ∈ ns := by
  obtain ⟨hs, ps, rest, he, hh, _⟩ := decode_eq_ok.mp hd
  obtain ⟨bytes, hb, hread⟩ := readSegment_eq_ok.mp hh
  obtain ⟨r, hread, _⟩ := document_eq_ok.mp hread
  simp only [headerNames?, he, hb, Except.toOption, Option.bind_some] at hns
  exact Record.mem_names_of_ne Header.keeps_algorithm (ignore_keeps _) hread hns hne

theorem sub_mem_claimNames {token : String} {h : Header} {c : Claims}
    (hd : decode token = .ok (h, c)) (hne : c.subject ≠ none) :
    ∃ ns, claimNames? token = some ns ∧ "sub" ∈ ns := by
  obtain ⟨hs, ps, rest, he, _, hc⟩ := decode_eq_ok.mp hd
  obtain ⟨bytes, hb, hread⟩ := readSegment_eq_ok.mp hc
  obtain ⟨r, hread, _⟩ := document_eq_ok.mp hread
  obtain ⟨ns, hns⟩ := Record.exists_names rfl hread
  refine ⟨ns, by simpa only [claimNames?, he, hb, Except.toOption, Option.bind_some] using hns, ?_⟩
  exact Record.mem_names_of_ne Claims.keeps_subject Claims.keep_keeps_subject hread hns hne

end BearerCheck.Token
