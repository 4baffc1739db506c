import SuggestionReview.Proofs.Review.Coherent

namespace SuggestionReview

namespace Review

variable {ε ν : Type} {l l' : Review ε ν} {i : Nat} {s : Row ε ν}

/-- Whether a review has all rows of another one but one, in their order, with the selection at the
position where it was as long as there is a row. -/
structure Removed (l : Review ε ν) (i : Nat) (l' : Review ε ν) : Prop where
  selected : l'.selected = min l.selected (l.rows.length - 2)
  rows : l'.rows = (l.rows.eraseIdx i).mapIdx fun j r ↦
    { r with position := j, focused := j == l'.selected }
  applying : ∀ j, j ∈ l'.applying ↔ before i j ∈ l.applying

theorem Placed.removed_dismiss (h : l.Placed) (hi : i < l.rows.length) (r : Row ε ν) :
    l.Removed i (l.dismiss i r).1 := by
  have hlength : (l.without i).rows.length = l.rows.length - 1 := by
    rw [h.rows_without, List.length_mapIdx, List.length_eraseIdx_of_lt hi]
  have hrows : (l.dismiss i r).1.rows = ((l.without i).select l.selected).rows := rfl
  have hselected : (l.dismiss i r).1.selected = ((l.without i).select l.selected).selected := rfl
  have happlying : (l.dismiss i r).1.applying =
      ((l.without i).select l.selected).applying := rfl
  rw [select_eq, hlength] at hrows hselected happlying
  refine ⟨hselected, ?_, fun j ↦ happlying ▸ mem_applying_without⟩
  rw [hselected, hrows]
  refine List.ext_getElem? fun j ↦ ?_
  rw [getElem?_syncFocus, h.rows_without, List.getElem?_mapIdx, List.getElem?_mapIdx, Option.map_map]
  rfl

namespace Removed

theorem getElem? (h : l.Removed i l') (j : Nat) : l'.rows[j]? =
    l.rows[before i j]?.map fun r ↦ { r with position := j, focused := j == l'.selected } := by
  rw [h.rows, List.getElem?_mapIdx, getElem?_eraseIdx]

theorem selectedRow (h : l.Removed i l') (hs : l.rows[before i l'.selected]? = some s) :
    l'.selectedRow = some { s with position := l'.selected, focused := true } := by
  rw [Review.selectedRow, h.getElem?, hs, Option.map_some, beq_self_eq_true]

theorem selectedRow_kept (h : l.Removed i l') (hl : l.Coherent) (hs : l.selectedRow = some s)
    (hne : i ≠ l.selected) (hi : i < l.rows.length)
    (hkept : l.selected < i ∨ l.selected + 1 = l.rows.length) :
    l'.selectedRow = some { s with position := l'.selected } := by
  have hbefore : before i l'.selected = l.selected := by
    rw [h.selected, before]
    split <;> omega
  have hfocused : s.focused = true := (hl.focused _ s hs).2 rfl
  rw [Review.selectedRow, ← hbefore] at hs
  rw [h.selectedRow hs, ← hfocused]

theorem selectedRow_moved (h : l.Removed i l') (hs : l.selectedRow = some s) (hi : i < l.selected)
    (hlt : l.selected + 1 < l.rows.length) :
    l'.rows[l.selected - 1]? = some { s with position := l.selected - 1, focused := false } ∧
    ∃ r, l.rows[l.selected + 1]? = some r ∧
      l'.selectedRow = some { r with position := l.selected, focused := true } := by
  have hselected : l'.selected = l.selected := by rw [h.selected]; omega
  obtain ⟨r, hr⟩ : ∃ r, l.rows[l.selected + 1]? = some r := ⟨_, List.getElem?_eq_getElem hlt⟩
  refine ⟨?_, r, hr, ?_⟩
  · have hbefore : before i (l.selected - 1) = l.selected := by
      rw [before]
      split <;> omega
    have hfocused : (l.selected - 1 == l'.selected) = false := by
      rw [beq_eq_false_iff_ne]
      omega
    have hs : l.rows[l.selected]? = some s := hs
    rw [h.getElem?, hbefore, hs, hfocused, Option.map_some]
  · have hbefore : before i l'.selected = l.selected + 1 := by
      rw [hselected, before]
      split <;> omega
    rw [← hselected]
    exact h.selectedRow (hbefore ▸ hr)

end Removed

variable [PayloadEditor ε]

/-- Removing another row than the selected one takes nothing else away. The selected row stays so when
it is above that row, and when it is the last one. Else the row below it is selected in its place. -/
theorem removed_other [Viewer ν]
    {f : SuggestionFile} {palette : Palette} {b : Bindings} {editor : ε}
    {choices : List (Choice ν)} {os : List (Operation ν)}
    (h : (built f palette b editor choices).performAll? os = some l) (hi : i < l.rows.length)
    (hne : i ≠ l.selected) :
    l.Removed i (l.handle i .dismiss).1 ∧
    ∃ s, l.selectedRow = some s ∧
      (l.selected < i ∨ l.selected + 1 = l.rows.length →
        (l.handle i .dismiss).1.selectedRow =
          some { s with position := (l.handle i .dismiss).1.selected }) ∧
      (i < l.selected → l.selected + 1 < l.rows.length →
        (l.handle i .dismiss).1.rows[l.selected - 1]? =
          some { s with position := l.selected - 1, focused := false } ∧
        ∃ r, l.rows[l.selected + 1]? = some r ∧
          (l.handle i .dismiss).1.selectedRow =
            some { r with position := l.selected, focused := true }) := by
  have hl : l.Coherent := performAll?_invariant (fun _ _ _ hp hl ↦ hl.perform hp)
    (coherent_built f palette b editor choices) h
  have hselected : l.selected < l.rows.length := by
    rcases hl.selected with hs | ⟨hnil, -⟩
    · exact hs
    · omega
  have hs : l.selectedRow = some l.rows[l.selected] := List.getElem?_eq_getElem hselected
  have hhandle : l.handle i .dismiss = l.dismiss i l.rows[i] := by
    simp only [handle, List.getElem?_eq_getElem hi]
  have hremoved := hl.removed_dismiss hi l.rows[i]
  rw [← hhandle] at hremoved
  exact ⟨hremoved, _, hs, hremoved.selectedRow_kept hl hs hne hi, hremoved.selectedRow_moved hs⟩

/-- The second of three rows is edited and stays selected when the third one is removed. -/
theorem removed_other_edited :
    ∃ l, (built (.sums 3) .dark .standard DocumentEditor.empty []).performAll?
        [.happens (.key (.press .down .none)), .happens (.key (.press (.char 'e') .none))] =
          some l ∧
      l.isEditing = true ∧ 2 < l.rows.length ∧ 2 ≠ l.selected ∧ l.selected < 2 ∧
      l.Removed 2 (l.handle 2 .dismiss).1 ∧
      ∃ s, l.selectedRow = some s ∧ (l.handle 2 .dismiss).1.selectedRow =
        some { s with position := (l.handle 2 .dismiss).1.selected } := by
  have hrun : ∃ l ∈ (built (.sums 3) .dark .standard DocumentEditor.empty []).performAll?
        [.happens (.key (.press .down .none)), .happens (.key (.press (.char 'e') .none))],
      l.isEditing = true ∧ 2 < l.rows.length ∧ l.selected < 2 := by
    decide +kernel
  obtain ⟨l, hl, hediting, hlength, hlt⟩ := hrun
  have hne : 2 ≠ l.selected := by omega
  obtain ⟨hremoved, s, hs, hkept, -⟩ := removed_other hl hlength hne
  exact ⟨l, hl, hediting, hlength, hne, hlt, hremoved, s, hs, hkept (.inl hlt)⟩

/-- Whether the selected row is still the same one, with the same work on it, when a row is removed. -/
def KeepsSelection (l : Review DocumentEditor ν) (i : Nat) : Prop :=
  ∃ s s', l.selectedRow = some s ∧ (l.handle i .dismiss).1.selectedRow = some s' ∧
    s'.suggestion = s.suggestion ∧ s'.state = s.state ∧ s'.editor.text = s.editor.text

theorem KeepsSelection.isEditing {l : Review DocumentEditor ν} (h : l.KeepsSelection i) :
    (l.handle i .dismiss).1.isEditing = l.isEditing := by
  obtain ⟨s, s', hs, hs', -, hstate, -⟩ := h
  rw [isEditing_of_selectedRow hs, isEditing_of_selectedRow hs']
  exact congrArg EditState.isEditing hstate

/-- The second of three rows is edited and not selected any more when the first one is removed. -/
theorem not_keepsSelection_edited :
    ∃ l ∈ (built (.sums 3) .dark .standard DocumentEditor.empty []).performAll?
        [.happens (.key (.press .down .none)), .happens (.key (.press (.char 'e') .none))],
      0 < l.rows.length ∧ 0 ≠ l.selected ∧ ¬l.KeepsSelection 0 := by
  have hrun : ∃ l ∈ (built (.sums 3) .dark .standard DocumentEditor.empty []).performAll?
        [.happens (.key (.press .down .none)), .happens (.key (.press (.char 'e') .none))],
      0 < l.rows.length ∧ 0 ≠ l.selected ∧ l.isEditing = true ∧
        (l.handle 0 .dismiss).1.isEditing = false := by
    decide +kernel
  obtain ⟨l, hl, hlength, hne, hediting, hleft⟩ := hrun
  refine ⟨l, hl, hlength, hne, fun hkept ↦ ?_⟩
  rw [hkept.isEditing, hediting] at hleft
  exact Bool.noConfusion hleft

end Review

end SuggestionReview
