namespace BearerCheck.Text.Utf8

def encode (s : String) : List UInt8 := s.toUTF8.data.toList

def decode (bs : List UInt8) : Option String := String.fromUTF8? ⟨bs.toArray⟩

theorem decode_encode (s : String) : decode (encode s) = some s := by
  simp [decode, encode, String.fromUTF8?, String.fromUTF8, s.isValidUTF8]

theorem encode_of_decode {bs : List UInt8} {s : String} (h : decode bs = some s) :
    encode s = bs := by
  simp only [decode, String.fromUTF8?] at h
  split at h
  · cases h
    rfl
  · cases h

theorem encode_injective {s t : String} (h : encode s = encode t) : s = t := by
  have hs := decode_encode s
  rw [h, decode_encode] at hs
  exact (Option.some.inj hs).symm

end BearerCheck.Text.Utf8
