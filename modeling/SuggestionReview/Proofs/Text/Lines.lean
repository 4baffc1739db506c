import SuggestionReview.Text.Fill
import SuggestionReview.Text.Basic

namespace SuggestionReview.Text

theorem endedLine_eq {opened : List Char} (h : '\r' ∉ opened) : endedLine opened = opened.reverse := by
  unfold endedLine
  split
  · exact absurd List.mem_cons_self h
  · rfl

theorem splitLines_ne_nil (cs : List Char) : splitLines cs ≠ [] := by
  cases cs with
  | nil => exact List.cons_ne_nil _ _
  | cons c cs =>
    rw [splitLines]
    split
    · exact List.cons_ne_nil _ _
    · split <;> exact List.cons_ne_nil _ _

def opening (opened : List Char) : List (List Char) → List (List Char)
  | [] => [opened.reverse]
  | first :: more => (opened.reverse ++ first) :: more

theorem opening_nil {lines : List (List Char)} (h : lines ≠ []) : opening [] lines = lines := by
  cases lines with
  | nil => exact absurd rfl h
  | cons first more => rfl

theorem opening_line (opened cs : List Char) :
    opening opened (splitLines ('\n' :: cs)) = opened.reverse :: splitLines cs := by
  rw [splitLines, if_pos rfl, opening, List.append_nil]

theorem opening_cons {c : Char} (hc : c ≠ '\n') (opened cs : List Char) :
    opening opened (splitLines (c :: cs)) = opening (c :: opened) (splitLines cs) := by
  obtain ⟨first, more, hlines⟩ := List.exists_cons_of_ne_nil (splitLines_ne_nil cs)
  rw [splitLines, if_neg hc, hlines]
  simp [opening]

/-- Lines that are joined again are the text. -/
theorem intercalate_splitLines (cs opened : List Char) :
    ['\n'].intercalate (opening opened (splitLines cs)) = opened.reverse ++ cs := by
  induction cs generalizing opened with
  | nil => simp [splitLines, opening]
  | cons c cs ih =>
    by_cases hc : c = '\n'
    · subst hc
      have hrest := ih []
      rw [opening_nil (splitLines_ne_nil cs)] at hrest
      obtain ⟨first, more, hlines⟩ := List.exists_cons_of_ne_nil (splitLines_ne_nil cs)
      rw [opening_line, hlines, List.intercalate_cons_cons, ← hlines, hrest]
      simp
    · rw [opening_cons hc, ih]
      simp

theorem linesFrom_begins {cs opened : List Char}
    (h : ∀ line ∈ opening opened (splitLines cs), '\r' ∉ line) :
    linesFrom opened cs <+: opening opened (splitLines cs) := by
  induction cs generalizing opened with
  | nil =>
    rw [linesFrom, splitLines, opening, List.append_nil]
    split
    · exact List.nil_prefix
    · exact List.prefix_rfl
  | cons c cs ih =>
    rw [linesFrom]
    by_cases hc : c = '\n'
    · subst hc
      rw [opening_line] at h ⊢
      obtain ⟨hopened, hmore⟩ := List.forall_mem_cons.1 h
      have hrest := opening_nil (splitLines_ne_nil cs)
      rw [if_pos rfl, endedLine_eq (by simpa using hopened), ← hrest]
      exact List.cons_prefix_cons.2 ⟨rfl, ih (hrest.symm ▸ hmore)⟩
    · rw [opening_cons hc] at h ⊢
      rw [if_neg hc]
      exact ih h

theorem linesFrom_of_ne {last : Char} {front opened : List Char} (hlast : last ≠ '\n')
    (ho : '\r' ∉ opened) (hf : '\r' ∉ front) :
    linesFrom opened (front ++ [last]) = opening opened (splitLines (front ++ [last])) := by
  induction front generalizing opened with
  | nil => simp [linesFrom, splitLines, opening, hlast]
  | cons c front ih =>
    obtain ⟨hc, hfront⟩ := not_or.1 (mt List.mem_cons.2 hf)
    rw [List.cons_append, linesFrom]
    by_cases hline : c = '\n'
    · subst hline
      rw [if_pos rfl, endedLine_eq ho, ih List.not_mem_nil hfront, opening_line,
        opening_nil (splitLines_ne_nil _)]
    · rw [if_neg hline, opening_cons hline]
      exact ih (fun h ↦ (List.mem_cons.1 h).elim hc ho) hfront

end SuggestionReview.Text
