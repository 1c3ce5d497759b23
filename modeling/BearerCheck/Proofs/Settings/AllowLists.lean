import BearerCheck.Proofs.Settings.Validity
import BearerCheck.Proofs.Token.Decoding
import BearerCheck.Proofs.Verifier.Checks
import BearerCheck.Settings.Loading

namespace BearerCheck.Settings

open Token

def ofFile (e : Environment) : Option (Except FileError (List UInt8)) → Except LoadError Settings
  | some content => loadFile e content
  | none => .ok {}

def validated (s : Settings) : Except LoadError Settings :=
  match s.flaw? with
  | some f => .error (.flawed f)
  | none => .ok s

theorem final_eq_ok {e : Environment} {file : Option (Except FileError (List UInt8))}
    {o : Overrides} {s : Settings} :
    final e file o = .ok s ↔
      ∃ base, ofFile e file = .ok base ∧ s = base.override o ∧ s.flaw? = none := by
  have hfinal : final e file o = ofFile e file >>= fun base => validated (base.override o) := by
    cases file <;> rfl
  rw [hfinal, bind_eq_ok]
  constructor
  · rintro ⟨base, hb, hs⟩
    unfold validated at hs
    split at hs
    · cases hs
    · cases hs
      exact ⟨base, hb, rfl, by assumption⟩
  · rintro ⟨base, hb, rfl, hs⟩
    exact ⟨base, hb, by simp [validated, hs]⟩

theorem no_empty_entry {s : Settings} (hs : s.flaw? = none) :
    "" ∉ s.subjects ∧ "" ∉ s.algorithms :=
  have h := flaw?_eq_none.mp hs
  ⟨h.subjects, h.algorithms⟩

theorem names_eq_nil (ns : List String) : Dictionary.names ns = [] ↔ ns = [] := by
  simp only [List.eq_nil_iff_forall_not_mem, Dictionary.mem_names]

theorem listed_of_allowed {entries : List String} {x : String} (hempty : "" ∉ entries)
    (hpass : ¬ (Dictionary.names entries ≠ [] ∧ x ∉ Dictionary.names entries))
    (hne : entries ≠ []) : x ∈ entries ∧ x ≠ "" := by
  have hmem : x ∈ entries := by
    by_contra hx
    exact hpass ⟨mt (names_eq_nil entries).mp hne, mt (Dictionary.mem_names entries x).mp hx⟩
  exact ⟨hmem, fun he => hempty (he ▸ hmem)⟩

theorem accepted_token_listed (e : Environment) (file : Option (Except FileError (List UInt8)))
    (o : Overrides) (s : Settings) (hs : final e file o = .ok s) (resolver : Option Resolver)
    (now : Int64) (token : String)
    (ha : (Verifier.verify ⟨s.policy, resolver⟩ now token).status = .ok) :
    ∃ base h c, ofFile e file = .ok base ∧ decode token = .ok (h, c) ∧
      (base.subjects ++ o.subjects ≠ [] →
        ∃ sub ∈ base.subjects ++ o.subjects, sub ≠ "" ∧ c.subject = some sub ∧
          ∃ ns, claimNames? token = some ns ∧ "sub" ∈ ns) ∧
      (base.algorithms ++ o.algorithms ≠ [] →
        h.algorithm ∈ base.algorithms ++ o.algorithms ∧ h.algorithm ≠ "" ∧
          ∀ ns, headerNames? token = some ns → "alg" ∈ ns) := by
  obtain ⟨base, hbase, rfl, hflaw⟩ := final_eq_ok.mp hs
  obtain ⟨hsubs, halgs⟩ := no_empty_entry hflaw
  obtain ⟨h, c, hd, hpass⟩ := Verifier.accepted_decoded ha
  refine ⟨base, h, c, hbase, hd, fun hne => ?_, fun hne => ?_⟩
  · obtain ⟨hmem, hsub⟩ := listed_of_allowed hsubs (hpass 4) hne
    cases hc : c.subject with
    | none => simp [hc] at hsub
    | some sub =>
      simp only [hc, Option.getD_some] at hmem hsub
      exact ⟨sub, hmem, hsub, rfl, sub_mem_claimNames hd (by simp [hc])⟩
  · obtain ⟨hmem, halg⟩ := listed_of_allowed halgs (hpass 3) hne
    exact ⟨hmem, halg, fun ns hns => alg_mem_headerNames hd hns halg⟩

theorem accepted_token_listed_alice :
    let e : Environment := fun name =>
      if name = "WHO" then some (Text.Utf8.encode "alice") else none
    let file := some (.ok (Text.Utf8.encode "allowed_subjects: [\"$\x7bWHO\x7d\"]"))
    let o : Overrides := { algorithms := ["none"] }
    let s : Settings := { subjects := ["alice"], algorithms := ["none"] }
    let token := "eyJhbGciOiJub25lIn0.eyJzdWIiOiJhbGljZSIsImlhdCI6MSwiZXhwIjo5fQ"
    final e file o = .ok s ∧ (Verifier.verify ⟨s.policy, none⟩ 5 token).status = .ok ∧
      ∃ base h c, ofFile e file = .ok base ∧ decode token = .ok (h, c) ∧
        (base.subjects ++ o.subjects ≠ [] →
          ∃ sub ∈ base.subjects ++ o.subjects, sub ≠ "" ∧ c.subject = some sub ∧
            ∃ ns, claimNames? token = some ns ∧ "sub" ∈ ns) ∧
        (base.algorithms ++ o.algorithms ≠ [] →
          h.algorithm ∈ base.algorithms ++ o.algorithms ∧ h.algorithm ≠ "" ∧
            ∀ ns, headerNames? token = some ns → "alg" ∈ ns) := by
  intro e file o s token
  have hs : final e file o = .ok s := by decide +kernel
  have ha : (Verifier.verify ⟨s.policy, none⟩ 5 token).status = .ok := by decide +kernel
  exact ⟨hs, ha, accepted_token_listed e file o s hs none 5 token ha⟩

end BearerCheck.Settings
