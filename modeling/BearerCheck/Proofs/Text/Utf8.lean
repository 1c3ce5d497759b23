import BearerCheck.Text.Utf8

namespace BearerCheck.Text.Utf8

theorem encode_ofList (cs : List Char) :
    encode (String.ofList cs) = cs.flatMap String.utf8EncodeChar := by
  simp [encode, List.utf8Encode]

theorem encode_append (s t : String) : encode (s ++ t) = encode s ++ encode t := by
  simp [encode]

def ascii (bs : List UInt8) : List Char := bs.map fun b => Char.ofNat b.toNat

theorem utf8EncodeChar_ascii : ∀ n < 128, String.utf8EncodeChar (Char.ofNat n) = [n.toUInt8] := by
  decide

theorem encode_ascii {bs : List UInt8} (h : ∀ b ∈ bs, b < 128) :
    encode (String.ofList (ascii bs)) = bs := by
  rw [encode_ofList, ascii, List.flatMap_map]
  induction bs with
  | nil => rfl
  | cons b bs ih =>
    have hb : b.toNat < 128 := UInt8.lt_iff_toNat_lt.mp (h b (by simp))
    rw [List.flatMap_cons, utf8EncodeChar_ascii _ hb, ih fun c hc => h c (List.mem_cons_of_mem _ hc)]
    simp

end BearerCheck.Text.Utf8
