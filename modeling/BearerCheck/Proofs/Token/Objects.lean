import BearerCheck.Proofs.Json.Accepted
import BearerCheck.Proofs.Token.Decoding

/-!
The texts that a decoded token came from. The payload is always an object. A header need not be one:
its members may also be given in order, as the elements of an array.
-/

namespace BearerCheck.Token

open Json Text

theorem Header.record_takesValues : Header.record.TakesValues where
  known := by
    intro f hf h
    simp only [Header.record, List.mem_cons, List.not_mem_nil, or_false] at hf
    rcases hf with rfl | rfl
    · exact map_takesValue string_takesValue fun a => { h with algorithm := a }
    · exact map_takesValue (value_takesValue _) fun v => { h with keyId := v.string? }
  other := ignore_takesMember

theorem Claims.record_takesValues : Claims.record.TakesValues where
  known := by
    intro f hf c
    simp only [Claims.record, List.mem_cons, List.not_mem_nil, or_false] at hf
    rcases hf with rfl | rfl | rfl | rfl
    · exact map_takesValue (optional_takesValue string_takesValue) fun x => { c with subject := x }
    · exact map_takesValue (optional_takesValue real_takesValue) fun x => { c with issuedAt := x }
    · exact map_takesValue (optional_takesValue real_takesValue) fun x => { c with expiresAt := x }
    · exact map_takesValue (optional_takesValue string_takesValue) fun x => { c with issuer := x }
  other := by
    intro c name s c' r h
    obtain ⟨⟨ms, u⟩, hms, h⟩ := map_eq_ok.mp h
    cases h
    exact addMember_takesMember (value_takesValue _) c.other name _ _ _ hms

def OpensArray (bs : List UInt8) : Prop := (skipSpace bs).head? = some Ascii.openBracket

theorem opensArray_of_isArray {bs : List UInt8} (h : IsArray bs) : OpensArray bs := by
  obtain ⟨t, r, ht, _⟩ := h
  rw [OpensArray, ht]
  rfl

theorem not_opensArray_of_isObject {bs : List UInt8} (h : IsObject bs) : ¬ OpensArray bs := by
  obtain ⟨t, r, ht, _⟩ := h
  have hne : Ascii.openBrace ≠ Ascii.openBracket := by decide
  simp [OpensArray, ht, hne]

theorem decode_objects {token : String} {h : Header} {c : Claims} (hd : decode token = .ok (h, c)) :
    ∃ hs ps rest header payload, segments token.toList = hs :: ps :: rest ∧
      segmentBytes .header hs = .ok header ∧ segmentBytes .payload ps = .ok payload ∧
      IsObject payload ∧ (IsObject header ↔ ¬ OpensArray header) ∧
      (IsArray header ↔ OpensArray header) := by
  obtain ⟨hs, ps, rest, he, hh, hc⟩ := decode_eq_ok.mp hd
  obtain ⟨header, hheader, hread⟩ := readSegment_eq_ok.mp hh
  obtain ⟨payload, hpayload, hread'⟩ := readSegment_eq_ok.mp hc
  refine ⟨hs, ps, rest, header, payload, he, hheader, hpayload, ?_, ?_⟩
  · rcases Claims.record_takesValues.document hread' with hobject | ⟨hpositional, _⟩
    · exact hobject
    · cases hpositional
  · rcases Header.record_takesValues.document hread with hobject | ⟨_, harray⟩
    · have hopens := not_opensArray_of_isObject hobject
      exact ⟨iff_of_true hobject hopens, iff_of_false (mt opensArray_of_isArray hopens) hopens⟩
    · have hopens := opensArray_of_isArray harray
      exact ⟨iff_of_false (fun hobject => not_opensArray_of_isObject hobject hopens)
        (not_not.mpr hopens), iff_of_true harray hopens⟩

theorem decode_objects_in_order :
    let token := "WyJSUzI1NiIsImsxIl0.e30"
    decode token = .ok (⟨"RS256", some "k1"⟩, .empty) ∧
      ∃ hs ps rest header payload, segments token.toList = hs :: ps :: rest ∧
        segmentBytes .header hs = .ok header ∧ segmentBytes .payload ps = .ok payload ∧
        IsObject payload ∧ (IsObject header ↔ ¬ OpensArray header) ∧
        (IsArray header ↔ OpensArray header) := by
  intro token
  have hd : decode token = .ok (⟨"RS256", some "k1"⟩, .empty) :=
    decode_eq_ok.mpr ⟨"WyJSUzI1NiIsImsxIl0".toList, "e30".toList, [], by decide +kernel,
      by decide +kernel, rfl⟩
  exact ⟨hd, decode_objects hd⟩

theorem array_header_decoded :
    decode "W10.e30" = .ok (⟨"", none⟩, .empty) ∧
      segmentBytes .header "W10".toList = .ok [Ascii.openBracket, Ascii.closeBracket] ∧
      ¬ IsObject [Ascii.openBracket, Ascii.closeBracket] := by
  refine ⟨by rfl, by decide +kernel, fun h => ?_⟩
  exact not_opensArray_of_isObject h rfl

end BearerCheck.Token
