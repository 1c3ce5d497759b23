import BearerCheck.Proofs.Json.MemberTexts
import BearerCheck.Proofs.Verifier.Signature

namespace BearerCheck

open Json Text Token

namespace Token

theorem Header.record_settles : Header.record.Settles where
  known := by
    intro f hf h t ht
    simp only [Header.record, List.mem_cons, List.not_mem_nil, or_false] at hf
    rcases hf with rfl | rfl
    · exact (string_settled ht).map fun a => { h with algorithm := a }
    · exact (value_settled _ ht).map fun v => { h with keyId := v.string? }
  other := fun h name _ _ hs ht => ignore_settled h name hs ht

theorem Header.member?_eq_none {name : String} (halg : name ≠ "alg") (hkid : name ≠ "kid") :
    Header.record.member? name = none := by
  simp [Record.member?, Header.record, halg.symm, hkid.symm]

theorem decode_congr_header {token token' : String} {hs hs' : List Char} {rest : List (List Char)}
    (htoken : segments token.toList = hs :: rest) (htoken' : segments token'.toList = hs' :: rest)
    (hread : readSegment Header.read .header hs' = readSegment Header.read .header hs) :
    decode token' = decode token := by
  unfold decode
  rw [htoken, htoken']
  cases rest with
  | nil => rfl
  | cons ps rest => simp only [hread]

theorem ne_empty_of_header {token : String} {hs : List Char} {rest : List (List Char)}
    {bs : List UInt8} (htoken : segments token.toList = hs :: rest)
    (hbs : segmentBytes .header hs = .ok bs) (hne : bs ≠ []) : token ≠ "" := by
  rintro rfl
  cases htoken
  cases hbs
  exact hne rfl

end Token

namespace Json

theorem IsObjectOfTexts.ne_nil {ms : List (List UInt8)} {bs : List UInt8}
    (h : IsObjectOfTexts ms bs) : bs ≠ [] := by
  rintro rfl
  obtain ⟨_, _, ht, _⟩ := h
  cases ht

end Json

namespace Verifier

theorem unknown_member_inert {token token' : String} {hs hs' : List Char}
    {rest : List (List Char)} {bs bs' m : List UInt8} {before after : List (List UInt8)}
    {name : String} (htoken : segments token.toList = hs :: rest)
    (htoken' : segments token'.toList = hs' :: rest) (hhs : segmentBytes .header hs = .ok bs)
    (hhs' : segmentBytes .header hs' = .ok bs') (hms : ∀ m ∈ before ++ after, MemberText m)
    (hbs : IsObjectOfTexts (before ++ after) bs)
    (hbs' : IsObjectOfTexts (before ++ m :: after) bs')
    (hm : MemberIs name ValueAt (Ascii.quote :: m) []) (halg : name ≠ "alg")
    (hkid : name ≠ "kid") :
    decode token' = decode token ∧
      ∀ (v : Verifier) (now : Int64), v.verify now token' = v.verify now token := by
  have hunknown := Header.member?_eq_none halg hkid
  have hread : Header.read bs' = Header.read bs :=
    Header.record_settles.document_insert rfl hms hbs hbs' hm hunknown ⟨"", none⟩
  have hd : decode token' = decode token := by
    apply decode_congr_header htoken htoken'
    unfold readSegment
    rw [hhs, hhs']
    simp only [bind, Except.bind, hread]
  have hne := ne_empty_of_header htoken hhs hbs.ne_nil
  have hne' := ne_empty_of_header htoken' hhs' hbs'.ne_nil
  exact ⟨hd, fun v now => v.verify_congr now hne' hne hd⟩

theorem unknown_member_inert_unreadable :
    let alg := Utf8.encode "alg\":\"RS256\""
    let kid := Utf8.encode "kid\": \"k1\""
    let m := Utf8.encode "\\u0078\" : [-1e999, \x7b\"a\": \"\\ud800\", \"a\": [[]]\x7d]"
    let bs := Ascii.openBrace :: Ascii.quote :: (alg ++ Ascii.comma :: Ascii.quote ::
      (kid ++ [Ascii.closeBrace]))
    let bs' := Ascii.openBrace :: Ascii.quote :: (alg ++ Ascii.comma :: Ascii.quote ::
      (m ++ Ascii.comma :: Ascii.quote :: (kid ++ [Ascii.closeBrace])))
    let payload := [Ascii.openBrace, Ascii.closeBrace]
    let token := String.ofList (encodeSegment bs ++ '.' :: encodeSegment payload)
    let token' := String.ofList (encodeSegment bs' ++ '.' :: encodeSegment payload)
    MemberIs "x" ValueAt (Ascii.quote :: m) [] ∧
      decode token = .ok (⟨"RS256", some "k1"⟩, .empty) ∧ decode token' = decode token ∧
      ∀ (v : Verifier) (now : Int64), v.verify now token' = v.verify now token := by
  intro alg kid m bs bs' payload token token'
  have hsegments (h : List UInt8) : segments (String.ofList (encodeSegment h ++ '.' ::
      encodeSegment payload)).toList = encodeSegment h :: [encodeSegment payload] := by
    rw [String.toList_ofList, segments_cons (dot_not_mem_encodeSegment _),
      segments_last (dot_not_mem_encodeSegment _)]
  have halg : MemberText alg :=
    ⟨Utf8.encode "\"RS256\"", skimName_sound (by decide +kernel), skim_sound (by decide +kernel)⟩
  have hkid : MemberText kid :=
    ⟨Utf8.encode " \"k1\"", skimName_sound (by decide +kernel), skim_sound (by decide +kernel)⟩
  have hms : ∀ m ∈ [alg] ++ [kid], MemberText m := by simp [halg, hkid]
  have hm : MemberIs "x" ValueAt (Ascii.quote :: m) [] := by
    have hname : stringText m = .ok ("x", m.drop 7) := by decide +kernel
    have hvalue : skim (m.drop 9) = .ok [] := by decide +kernel
    have hcolon : skipSpace (m.drop 7) = Ascii.colon :: m.drop 9 := by decide +kernel
    exact ⟨_, ⟨_, _, rfl, stringText_eq_ok.mp hname, hcolon⟩, skim_sound hvalue⟩
  have hbs : IsObjectOfTexts ([alg] ++ [kid]) bs :=
    ⟨_, [], rfl, .next rfl rfl (.next rfl rfl (.close rfl)), rfl⟩
  have hbs' : IsObjectOfTexts ([alg] ++ m :: [kid]) bs' :=
    ⟨_, [], rfl, .next rfl rfl (.next rfl rfl (.next rfl rfl (.close rfl))), rfl⟩
  have hd : decode token = .ok (⟨"RS256", some "k1"⟩, .empty) := by
    refine decode_eq_ok.mpr ⟨_, _, _, hsegments bs, ?_, ?_⟩
    · have hread : Header.read bs = .ok ⟨"RS256", some "k1"⟩ := by decide +kernel
      rw [readSegment_encodeSegment, hread]
      rfl
    · rw [readSegment_encodeSegment]
      rfl
  exact ⟨hm, hd, unknown_member_inert (hsegments bs) (hsegments bs')
    (segmentBytes_encodeSegment _ bs) (segmentBytes_encodeSegment _ bs') hms hbs hbs' hm
    (by decide) (by decide)⟩

end Verifier

end BearerCheck
