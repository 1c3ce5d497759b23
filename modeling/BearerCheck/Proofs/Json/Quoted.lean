import BearerCheck.Json.Reader
import Mathlib.Tactic.SplitIfs

namespace BearerCheck.Json

open Text

theorem hexDigit?_hexDigit : ∀ n < 16, Ascii.hexDigit? (Ascii.hexDigit n) = some n := by decide

theorem hexDigit_printable : ∀ n < 16, 0x20 ≤ Ascii.hexDigit n := by decide

theorem codePoint_control : ∀ n < 32, codePoint n = [n.toUInt8] := by decide

theorem hexValue?_control {n : Nat} (hn : n < 32) :
    hexValue? [Ascii.hexDigit (n % 16), Ascii.hexDigit (n / 16), 0x30, 0x30] = some n := by
  have hzero : Ascii.hexDigit? 0x30 = some 0 := rfl
  have hhigh := hexDigit?_hexDigit (n / 16) (by omega)
  have hlow := hexDigit?_hexDigit (n % 16) (by omega)
  have hsum : 16 * (n / 16) + n % 16 = n := Nat.div_add_mod n 16
  simp [hexValue?, hzero, hhigh, hlow, hsum]

theorem unit_control {n : Nat} (hn : n < 32) : unit none n = .ok ([n.toUInt8], .plain) := by
  rw [unit, if_neg (by omega), if_neg (by omega), codePoint_control n hn]

theorem stringBytes_escapeByte (b : UInt8) (s : List UInt8) :
    stringBytes .plain (escapeByte b ++ s) = prepend [b] (stringBytes .plain s) := by
  unfold escapeByte
  split_ifs with h1 h2 h3 h4 h5 h6 h7 h8
  · subst h1; rfl
  · subst h2; rfl
  · subst h3; rfl
  · subst h4; rfl
  · subst h5; rfl
  · subst h6; rfl
  · subst h7; rfl
  · -- the other controls are written with four hexadecimal digits
    have hb : b.toNat < 32 := UInt8.lt_iff_toNat_lt.mp h8
    have hq : Ascii.backslash ≠ Ascii.quote := by decide
    have hu : escapedByte? 0x75 = none := rfl
    have hvalue := hexValue?_control hb
    have hunit := unit_control hb
    simp [stringBytes, hq, hu, hvalue, hunit]
  · simp [stringBytes, h1, h2, h8]

theorem stringBytes_escape (bs rest : List UInt8) :
    stringBytes .plain (bs.flatMap escapeByte ++ Ascii.quote :: rest) = .ok (bs, rest) := by
  induction bs with
  | nil => rfl
  | cons b bs ih =>
    rw [List.flatMap_cons, List.append_assoc, stringBytes_escapeByte, ih]
    rfl

def quoteTail (s : String) : List UInt8 := (Utf8.encode s).flatMap escapeByte ++ [Ascii.quote]

theorem quote_eq (s : String) : quote s = Ascii.quote :: quoteTail s := rfl

theorem stringText_quoteTail (s : String) (rest : List UInt8) :
    stringText (quoteTail s ++ rest) = .ok (s, rest) := by
  have hbytes : stringBytes .plain (quoteTail s ++ rest) = .ok (Utf8.encode s, rest) := by
    rw [quoteTail, List.append_assoc]
    exact stringBytes_escape (Utf8.encode s) rest
  simp [stringText, hbytes, bind, Except.bind, Utf8.decode_encode]

theorem start_quote (s : String) (rest : List UInt8) :
    start (quote s ++ rest) = .ok (.scalar (.string s), rest) := by
  have hscalar : scalar Ascii.quote (quoteTail s ++ rest) = .ok (.string s, rest) := by
    simp [scalar, stringText_quoteTail, Except.map]
  change (scalar Ascii.quote (quoteTail s ++ rest)).map _ = _
  rw [hscalar]
  rfl

theorem string_quote (s : String) (rest : List UInt8) :
    string (quote s ++ rest) = .ok (s, rest) := by
  simp [string, start_quote]

theorem escapeByte_printable (b : UInt8) : ∀ c ∈ escapeByte b, 0x20 ≤ c := by
  have hback : (0x20 : UInt8) ≤ Ascii.backslash := by decide
  have letter (x : UInt8) (hx : 0x20 ≤ x) : ∀ c ∈ [Ascii.backslash, x], 0x20 ≤ c := by
    simp [hback, hx]
  unfold escapeByte
  split_ifs with _ _ _ _ _ _ _ hb
  iterate 7 exact letter _ (by decide)
  · have hb : b.toNat < 32 := UInt8.lt_iff_toNat_lt.mp hb
    have hhigh := hexDigit_printable (b.toNat / 16) (by omega)
    have hlow := hexDigit_printable (b.toNat % 16) (by omega)
    simp [hback, hhigh, hlow]
  · simpa using hb

theorem quote_printable (s : String) : ∀ b ∈ quote s, 0x20 ≤ b := by
  intro b hb
  simp only [quote, List.mem_cons, List.mem_append, List.mem_flatMap, List.not_mem_nil,
    or_false] at hb
  rcases hb with rfl | ⟨c, _, hb⟩ | rfl
  · decide
  · exact escapeByte_printable c b hb
  · decide

end BearerCheck.Json
