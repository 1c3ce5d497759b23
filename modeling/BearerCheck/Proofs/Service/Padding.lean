import BearerCheck.Proofs.Service.Lines

namespace BearerCheck.Service

open Text

def IsPadding (bs : List UInt8) : Prop :=
  ∀ b ∈ bs, b = Ascii.space ∨ b = Ascii.tab ∨ b = Ascii.carriageReturn ∨ b = Ascii.formFeed

instance (bs : List UInt8) : Decidable (IsPadding bs) := List.decidableBAll _ bs

inductive Padded : List (List UInt8) → List (List UInt8) → Prop
  | nil : Padded [] []
  | line {front line back : List UInt8} {lines padded : List (List UInt8)} :
      IsPadding front → IsPadding back → Padded lines padded →
        Padded (line :: lines) ((front ++ line ++ back) :: padded)
  | blank {bs : List UInt8} {lines padded : List (List UInt8)} :
      IsPadding bs → Padded lines padded → Padded lines (bs :: padded)

def ended (lines : List (List UInt8)) : List UInt8 := lines.flatMap (· ++ [Ascii.lineFeed])

def unended (lines : List (List UInt8)) : List UInt8 := [Ascii.lineFeed].intercalate lines

theorem IsPadding.isLineBlank {bs : List UInt8} (h : IsPadding bs) :
    ∀ b ∈ bs, isLineBlank b = true := by
  intro b hb
  rw [isLineBlank_iff]
  rcases h b hb with rfl | rfl | rfl | rfl <;> decide

theorem IsPadding.lineFeed_not_mem {bs : List UInt8} (h : IsPadding bs) :
    Ascii.lineFeed ∉ bs := by
  intro hmem
  rcases h _ hmem with h | h | h | h <;> exact absurd h (by decide)

theorem requestOf_blank {bs : List UInt8} (h : IsPadding bs) : requestOf bs = [] := by
  rw [requestOf, if_pos (List.all_eq_true.mpr h.isLineBlank)]

theorem requestOf_padded {front back : List UInt8} (hfront : IsPadding front)
    (hback : IsPadding back) (line : List UInt8) :
    requestOf (front ++ line ++ back) = requestOf line := by
  have hall : (front ++ line ++ back).all isLineBlank = line.all isLineBlank := by
    rw [List.all_append, List.all_append, List.all_eq_true.mpr hfront.isLineBlank,
      List.all_eq_true.mpr hback.isLineBlank, Bool.true_and, Bool.and_true]
  rw [requestOf, requestOf, hall, trim_append hfront.isLineBlank hback.isLineBlank]

theorem requestLines_ended {lines : List (List UInt8)} (h : ∀ line ∈ lines, Ascii.lineFeed ∉ line) :
    requestLines (ended lines) = lines.flatMap requestOf := by
  induction lines with
  | nil => exact requestLines_nil
  | cons line lines ih =>
    have hrest := ih fun l hl => h l (List.mem_cons_of_mem _ hl)
    rw [ended] at hrest
    rw [ended, List.flatMap_cons, List.append_assoc, List.singleton_append,
      requestLines_line (h line List.mem_cons_self), hrest, List.flatMap_cons]

theorem requestLines_unended {lines : List (List UInt8)}
    (h : ∀ line ∈ lines, Ascii.lineFeed ∉ line) :
    requestLines (unended lines) = lines.flatMap requestOf := by
  induction lines with
  | nil => exact requestLines_nil
  | cons line lines ih =>
    have hline := h line List.mem_cons_self
    cases lines with
    | nil =>
      rw [unended, List.intercalate_singleton, requestLines_last hline]
      simp
    | cons next lines =>
      have hrest := ih fun l hl => h l (List.mem_cons_of_mem _ hl)
      rw [unended] at hrest
      rw [unended, List.intercalate_cons_cons, List.append_assoc, List.singleton_append,
        requestLines_line hline, hrest]
      rfl

namespace Padded

variable {lines padded : List (List UInt8)}

theorem lineFeed_not_mem (h : Padded lines padded)
    (hlines : ∀ line ∈ lines, Ascii.lineFeed ∉ line) : ∀ line ∈ padded, Ascii.lineFeed ∉ line := by
  induction h with
  | nil => exact hlines
  | @line front line back lines padded hfront hback _ ih =>
    rw [List.forall_mem_cons] at hlines ⊢
    refine ⟨?_, ih hlines.2⟩
    rw [List.mem_append, List.mem_append]
    rintro ((hmem | hmem) | hmem)
    · exact hfront.lineFeed_not_mem hmem
    · exact hlines.1 hmem
    · exact hback.lineFeed_not_mem hmem
  | blank hbs _ ih =>
    rw [List.forall_mem_cons]
    exact ⟨hbs.lineFeed_not_mem, ih hlines⟩

theorem requests (h : Padded lines padded) : padded.flatMap requestOf = lines.flatMap requestOf := by
  induction h with
  | nil => rfl
  | line hfront hback _ ih =>
    rw [List.flatMap_cons, List.flatMap_cons, requestOf_padded hfront hback, ih]
  | blank hbs _ ih => rw [List.flatMap_cons, requestOf_blank hbs, List.nil_append, ih]

theorem map_append_return (lines : List (List UInt8)) :
    Padded lines (lines.map (· ++ [Ascii.carriageReturn])) := by
  induction lines with
  | nil => exact .nil
  | cons line lines ih =>
    have hnone : IsPadding [] := by simp [IsPadding]
    have hreturn : IsPadding [Ascii.carriageReturn] := by simp [IsPadding]
    exact .line hnone hreturn ih

end Padded

theorem serve_padded (v : Verifier) (clock : Nat → Int64) (room : Option Nat)
    {lines padded : List (List UInt8)} (hlines : ∀ line ∈ lines, Ascii.lineFeed ∉ line)
    (hpadded : Padded lines padded) :
    serve v clock room (ended padded) = serve v clock room (ended lines) ∧
    serve v clock room (unended padded) = serve v clock room (ended lines) ∧
    serve v clock room (lines.flatMap (· ++ [Ascii.carriageReturn, Ascii.lineFeed])) =
      serve v clock room (ended lines) ∧
    ∀ bytes : List UInt8,
      middleStart isLineBlank bytes ≤ middleStop isLineBlank bytes ∧
      middleStop isLineBlank bytes ≤ bytes.length ∧
      (∀ front mid back, IsCut isLineBlank bytes front mid back ↔
        front = bytes.take (middleStart isLineBlank bytes) ∧ mid = middle isLineBlank bytes ∧
          back = bytes.drop (middleStop isLineBlank bytes)) ∧
      (middle isLineBlank bytes = [] ↔ ∀ b ∈ bytes, isLineBlank b = true) := by
  have hrequests := hpadded.requests
  have hfeeds := hpadded.lineFeed_not_mem hlines
  have hended : requestLines (ended lines) = lines.flatMap requestOf := requestLines_ended hlines
  refine ⟨?_, ?_, ?_, fun bytes => ?_⟩
  · rw [serve_eq_serveLines, serve_eq_serveLines, requestLines_ended hfeeds, hrequests, hended]
  · rw [serve_eq_serveLines, serve_eq_serveLines, requestLines_unended hfeeds, hrequests, hended]
  · have hreturns := Padded.map_append_return lines
    have hstream : lines.flatMap (· ++ [Ascii.carriageReturn, Ascii.lineFeed]) =
        ended (lines.map (· ++ [Ascii.carriageReturn])) := by
      simp [ended, List.flatMap_map]
    rw [serve_eq_serveLines, serve_eq_serveLines, hstream,
      requestLines_ended (hreturns.lineFeed_not_mem hlines), hreturns.requests, hended]
  · obtain ⟨hstart, hstop⟩ := middle_bounds isLineBlank bytes
    refine ⟨hstart, hstop, isCut_iff bytes, ?_⟩
    rw [middle_eq_trim, trim_eq_nil_iff]

theorem serve_padded_form_feed :
    let v : Verifier := ⟨⟨[], [], 60⟩, none⟩
    let lines := [Utf8.encode "x", Utf8.encode "\x7b\x7d"]
    let padded := [[Ascii.space, Ascii.carriageReturn],
      [Ascii.tab] ++ Utf8.encode "x" ++ [Ascii.carriageReturn],
      [Ascii.formFeed] ++ Utf8.encode "\x7b\x7d" ++ []]
    (∀ line ∈ lines, Ascii.lineFeed ∉ line) ∧ Padded lines padded ∧
      unended padded = Utf8.encode " \r\n\tx\r\n\x0c\x7b\x7d" ∧
      ended lines = Utf8.encode "x\n\x7b\x7d\n" ∧
      serve v (fun _ => 0) none (unended padded) = serve v (fun _ => 0) none (ended lines) := by
  intro v lines padded
  have hlines : ∀ line ∈ lines, Ascii.lineFeed ∉ line := by decide +kernel
  have hpadded : Padded lines padded :=
    .blank (by decide) (.line (by decide) (by decide) (.line (by decide) (by decide) .nil))
  exact ⟨hlines, hpadded, by decide +kernel, by decide +kernel,
    (serve_padded v (fun _ => 0) none hlines hpadded).2.1⟩

end BearerCheck.Service
