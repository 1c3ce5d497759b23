import BearerCheck.Proofs.Token.Segments
import Mathlib.Logic.ExistsUnique

namespace BearerCheck.Token

open Text

theorem segmentBytes_eq_ok {name : Segment} {s : List Char} {bs : List UInt8} :
    segmentBytes name s = .ok bs ↔ s = encodeSegment bs := by
  constructor
  · intro h
    have hs : Utf8.encode (String.ofList s) = Base64.encode bs :=
      Base64.decode_eq_ok.mp (mapError_eq_ok.mp h)
    have hbs := Base64.decode_eq_ok.mp (mapError_eq_ok.mp (segmentBytes_encodeSegment name bs))
    have heq := Utf8.encode_injective (hs.trans hbs.symm)
    simpa using congrArg String.toList heq
  · rintro rfl
    exact segmentBytes_encodeSegment name bs

def letter (n : Nat) : Char := Char.ofNat (Base64.symbol n).toNat

structure Strict (s : List Char) : Prop where
  alphabet : ∀ c ∈ s, c.isAlphanum = true ∨ c = '-' ∨ c = '_'
  length : s.length % 4 ≠ 1
  two : s.length % 4 = 2 → ∃ n < 4, s.getLast? = some (letter (n * 16))
  three : s.length % 4 = 3 → ∃ n < 16, s.getLast? = some (letter (n * 4))

theorem letter_alphabet :
    ∀ n < 64, (letter n).isAlphanum = true ∨ letter n = '-' ∨ letter n = '_' := by decide

theorem encodeSegment_strict (bs : List UInt8) : Strict (encodeSegment bs) where
  alphabet := by
    intro c hc
    obtain ⟨b, hb, rfl⟩ := List.mem_map.mp hc
    obtain ⟨n, hn, rfl⟩ := Base64.mem_encode bs b hb
    exact letter_alphabet n hn
  length := by
    rw [encodeSegment, Utf8.ascii, List.length_map, Base64.encode_length]
    omega
  two := by
    intro h
    rw [encodeSegment, Utf8.ascii, List.length_map] at h
    obtain ⟨n, hn, hlast⟩ := (Base64.encode_last bs).1 h
    exact ⟨n, hn, by rw [encodeSegment, Utf8.ascii, List.getLast?_map, hlast]; rfl⟩
  three := by
    intro h
    rw [encodeSegment, Utf8.ascii, List.length_map] at h
    obtain ⟨n, hn, hlast⟩ := (Base64.encode_last bs).2 h
    exact ⟨n, hn, by rw [encodeSegment, Utf8.ascii, List.getLast?_map, hlast]; rfl⟩

/-- The bytes of the two segments of a token that are looked at. -/
def Carries (token : String) (header payload : List UInt8) : Prop :=
  ∃ hs ps rest, segments token.toList = hs :: ps :: rest ∧
    segmentBytes .header hs = .ok header ∧ segmentBytes .payload ps = .ok payload

theorem carries_encodeSegment (header payload : List UInt8) :
    Carries (String.ofList (encodeSegment header ++ '.' :: encodeSegment payload)) header payload := by
  refine ⟨encodeSegment header, encodeSegment payload, [], ?_, ?_, ?_⟩
  · rw [String.toList_ofList, segments_cons (dot_not_mem_encodeSegment _),
      segments_last (dot_not_mem_encodeSegment _)]
  · exact segmentBytes_encodeSegment _ header
  · exact segmentBytes_encodeSegment _ payload

theorem segments_of_carries {token : String} {header payload : List UInt8}
    (h : Carries token header payload) :
    (segments token.toList).take 2 = [encodeSegment header, encodeSegment payload] := by
  obtain ⟨hs, ps, rest, he, hh, hp⟩ := h
  rw [he, segmentBytes_eq_ok.mp hh, segmentBytes_eq_ok.mp hp]
  rfl

theorem one_text_each :
    (∀ name s bs, segmentBytes name s = .ok bs ↔ s = encodeSegment bs) ∧
    (∀ name bs, ∃! s, segmentBytes name s = .ok bs) ∧
    (∀ name s bs, segmentBytes name s = .ok bs → Strict s) ∧
    ∀ token token' header payload, Carries token header payload → Carries token' header payload →
      (segments token.toList).take 2 = (segments token'.toList).take 2 := by
  refine ⟨fun name s bs => segmentBytes_eq_ok, fun name bs => ?_, fun name s bs h => ?_,
    fun token token' header payload h h' => ?_⟩
  · exact ⟨encodeSegment bs, segmentBytes_encodeSegment name bs, fun s => segmentBytes_eq_ok.mp⟩
  · rw [segmentBytes_eq_ok.mp h]
    exact encodeSegment_strict bs
  · rw [segments_of_carries h, segments_of_carries h']

example : (List.range 64).map letter =
    "ABCDEFGHIJKLMNOPQRSTUVWXYZabcdefghijklmnopqrstuvwxyz0123456789-_".toList := by decide

end BearerCheck.Token
