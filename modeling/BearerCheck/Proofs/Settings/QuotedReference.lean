import BearerCheck.Proofs.Settings.References
import BearerCheck.Proofs.Text.Trim
import BearerCheck.Proofs.Yaml.Listing

namespace BearerCheck

namespace Reference

theorem not_refers {t : List Char} (h : '$' ∉ t) (name : List Char) : ¬ Refers t name := by
  rintro ⟨_, hwrite⟩
  exact h (hwrite.subset List.mem_cons_self)

end Reference

namespace Settings

open Reference Text Yaml

def beforeEntry (above indent : ℕ) : List Char :=
  List.replicate above '\n' ++ "allowed_subjects:\n".toList ++ List.replicate indent ' ' ++
    "- \"".toList

def behindEntry (below : ℕ) : List Char := "\"".toList ++ List.replicate below '\n'

def oneSubject (above indent : ℕ) (entry : List Char) (below : ℕ) : String :=
  String.ofList (beforeEntry above indent ++ entry ++ behindEntry below)

theorem oneSubject_listing (above indent : ℕ) (entry : List Char) (below : ℕ) :
    oneSubject above indent entry below =
      String.ofList (listing above "allowed_subjects".toList indent entry below) := by
  simp [oneSubject, beforeEntry, behindEntry, listing, Yaml.entry]

section Replaced

variable {e : Environment} {name : List Char} {value : String}

theorem replaced_entry (hname : IsName name) (hvalue : e.text? (String.ofList name) = some value)
    (above indent below : ℕ) :
    Replaced e (beforeEntry above indent ++ write name ++ behindEntry below)
      (beforeEntry above indent ++ value.toList ++ behindEntry below) := by
  have hbefore : '$' ∉ beforeEntry above indent := by simp [beforeEntry]
  have hbehind : '$' ∉ behindEntry below := by simp [behindEntry]
  exact .value hname hvalue (.unchanged (not_refers hbefore)) (.unchanged (not_refers hbehind))

theorem load_oneSubject (hname : IsName name) (hvalue : e.text? (String.ofList name) = some value)
    (above indent below : ℕ) :
    load e (oneSubject above indent (write name) below) =
      read (oneSubject above indent value.toList below) := by
  apply load_of_valueOf
  rw [oneSubject, String.toList_ofList]
  exact (replaced_entry hname hvalue above indent below).valueOf

end Replaced

theorem trimBlank_oneSubject (above indent : ℕ) (entry : List Char) (below : ℕ) :
    trimBlank (oneSubject above indent entry below) ≠ "" := by
  intro hempty
  rw [trimBlank, ← String.toList_inj, String.toList_ofList, String.toList_empty] at hempty
  have hdash : '-' ∈ (oneSubject above indent entry below).toList := by
    simp [oneSubject, beforeEntry]
  have hblank : Text.isBlank '-' = true := (trim_eq_nil_iff _).mp hempty '-' hdash
  cases hblank

theorem ofDocument?_oneSubject (value : String) :
    ofDocument? ⟨.mapping [(.scalar "allowed_subjects" .plain none,
      .sequence [.scalar value .quoted none])], []⟩ = some { subjects := [value] } := by
  simp [ofDocument?, members?, entries?, Document.resolve, text?, member?, texts?, items?]

theorem isKey_subjects : IsKey "allowed_subjects".toList := ⟨by decide, by decide, by decide⟩

theorem read_oneSubject {value : String} (hvalue : ∀ c ∈ value.toList, IsVerbatim c)
    (above indent below : ℕ) :
    read (oneSubject above indent value.toList below) = .ok { subjects := [value] } := by
  have hdocument := read?_listing isKey_subjects hvalue above indent below
  rw [String.ofList_toList, String.ofList_toList] at hdocument
  rw [read, if_neg (trimBlank_oneSubject above indent value.toList below), oneSubject_listing,
    hdocument, Option.bind_some, ofDocument?_oneSubject]

theorem load_quoted_reference (e : Environment) {name : List Char} {value : String}
    (hname : IsName name) (hset : e (String.ofList name) = some (Utf8.encode value))
    (hvalue : ∀ c ∈ value.toList, IsVerbatim c) (above indent below : ℕ) :
    load e (oneSubject above indent (write name) below) = .ok { subjects := [value] } := by
  have htext : e.text? (String.ofList name) = some value := by
    rw [Environment.text?, hset, Option.bind_some, Utf8.decode_encode]
  rw [load_oneSubject hname htext, read_oneSubject hvalue]

theorem load_quoted_reference_comment :
    let e : Environment := fun _ => some (Utf8.encode "# 007: [\x7ba\x7d, $\x7bVAR\x7d] - ")
    IsName "VAR".toList ∧ e (String.ofList "VAR".toList) =
        some (Utf8.encode "# 007: [\x7ba\x7d, $\x7bVAR\x7d] - ") ∧
      (∀ c ∈ "# 007: [\x7ba\x7d, $\x7bVAR\x7d] - ".toList, IsVerbatim c) ∧
      oneSubject 0 2 (write "VAR".toList) 1 = "allowed_subjects:\n  - \"$\x7bVAR\x7d\"\n" ∧
      load e (oneSubject 0 2 (write "VAR".toList) 1) =
        .ok { subjects := ["# 007: [\x7ba\x7d, $\x7bVAR\x7d] - "] } := by
  intro e
  have hname : IsName "VAR".toList := ⟨by decide, List.all_eq_true.mp (by decide)⟩
  have hvalue : ∀ c ∈ "# 007: [\x7ba\x7d, $\x7bVAR\x7d] - ".toList, IsVerbatim c := by decide
  exact ⟨hname, rfl, hvalue, by decide +kernel, load_quoted_reference e hname rfl hvalue 0 2 1⟩

end Settings

end BearerCheck
