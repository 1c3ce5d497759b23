import BearerCheck.Proofs.Base64
import BearerCheck.Proofs.Text.Utf8
import BearerCheck.Proofs.Token.Decoding

namespace BearerCheck.Token

open Text

def encodeSegment (bs : List UInt8) : List Char := Utf8.ascii (Base64.encode bs)

theorem segmentBytes_encodeSegment (name : Segment) (bs : List UInt8) :
    segmentBytes name (encodeSegment bs) = .ok bs := by
  have hascii : ∀ s ∈ Base64.encode bs, s < 128 := by
    intro s hs
    obtain ⟨n, hn, rfl⟩ := Base64.mem_encode bs s hs
    exact Base64.symbol_lt n hn
  rw [segmentBytes, encodeSegment, Utf8.encode_ascii hascii, Base64.decode_encode]
  rfl

theorem symbol_char_ne : ∀ n < 64, Char.ofNat (Base64.symbol n).toNat ≠ '.' := by decide

theorem dot_not_mem_encodeSegment (bs : List UInt8) : '.' ∉ encodeSegment bs := by
  intro hmem
  obtain ⟨s, hs, he⟩ := List.mem_map.mp hmem
  obtain ⟨n, hn, rfl⟩ := Base64.mem_encode bs s hs
  exact symbol_char_ne n hn he

theorem segments_last {s : List Char} (hs : '.' ∉ s) : segments s = [s] := by
  induction s with
  | nil => rfl
  | cons c s ih =>
    rw [List.mem_cons, not_or] at hs
    rw [segments, if_neg (Ne.symm hs.1), ih hs.2]

theorem segments_cons {s : List Char} (hs : '.' ∉ s) (r : List Char) :
    segments (s ++ '.' :: r) = s :: segments r := by
  induction s with
  | nil => exact if_pos rfl
  | cons c s ih =>
    rw [List.mem_cons, not_or] at hs
    rw [List.cons_append, segments, if_neg (Ne.symm hs.1), ih hs.2]

theorem readSegment_encodeSegment {α : Type} (read : List UInt8 → Except Json.Error α)
    (name : Segment) (bs : List UInt8) :
    readSegment read name (encodeSegment bs) = (read bs).mapError (.json name) := by
  rw [readSegment, segmentBytes_encodeSegment]
  rfl

end BearerCheck.Token
