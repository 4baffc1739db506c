import SuggestionReview.Row.Draw

namespace SuggestionReview

theorem RowContent.ofSuggestion_ne_editor (s : Suggestion) (draft : Payload) :
    ofSuggestion s ≠ editor draft := by
  unfold ofSuggestion
  split
  · nofun
  · split
    · nofun
    · split <;> nofun

namespace Row

variable {ε ν : Type}

theorem content_of_viewed (r : Row ε ν) (h : r.isEditing = false) :
    r.content = .ofSuggestion r.suggestion := by
  have hstate : r.state.isEditing = false := h
  rw [content, RowContent.select, hstate]
  rfl

theorem pieceSpans_other (r : Row ε ν) (state : EditState) (editor : ε) (viewer : ViewerSlot ν)
    (nth : Nat) (pieces : List ReferencePiece) :
    pieceSpans { r with state, editor, viewer } nth pieces = r.pieceSpans nth pieces := by
  induction pieces generalizing nth with
  | nil => rfl
  | cons piece pieces ih => simp only [pieceSpans, ih]

theorem drawHeader_other (r : Row ε ν) {state : EditState} (editor : ε) (viewer : ViewerSlot ν)
    (hmode : state.mode = r.state.mode) (a : Area) (c : Canvas) :
    drawHeader { r with state, editor, viewer } a c = r.drawHeader a c := by
  have hheader : headerSpans { r with state, editor, viewer } = r.headerSpans := by
    simp only [headerSpans, pieceSpans_other]
    rfl
  have hcontrol : controlSpans { r with state, editor, viewer } = r.controlSpans := by
    simp only [controlSpans, editSpans, hmode]
    rfl
  simp only [drawHeader, hheader, hcontrol]

variable [PayloadEditor ε]

/-- Whether a row shows the same as another one, which takes the same space and looks the same. -/
structure SameLook [Viewer ν] (r r' : Row ε ν) : Prop where
  content : r'.content = r.content
  height : ∀ width, r'.height? width = r.height? width
  canvas : ∀ source a c, (r'.draw source a c).canvas = (r.draw source a c).canvas

/-- Nothing shows the draft or the editor of a row that is not edited. -/
theorem sameLook_of_viewed [Viewer ν]
    (r : Row ε ν) (h : r.isEditing = false) {state : EditState} {editor : ε}
    (hstate : state.isEditing = false) : r.SameLook { r with state, editor } := by
  have hcontent := r.content_of_viewed h
  have hcontent' : Row.content { r with state, editor } = .ofSuggestion r.suggestion :=
    content_of_viewed _ hstate
  have hmode : state.mode = r.state.mode := by
    have hview : r.state.isEditing = false := h
    unfold EditState.isEditing at hview hstate
    cases hm : r.state.mode <;> cases hm' : state.mode <;> simp_all
  refine ⟨hcontent'.trans hcontent.symm, fun width ↦ ?_, fun source a c ↦ ?_⟩
  · simp only [height?, contentHeight?, hcontent, hcontent']
    cases hs : RowContent.ofSuggestion r.suggestion with
    | editor draft => exact absurd hs (RowContent.ofSuggestion_ne_editor _ _)
    | _ => rfl
  · simp only [draw, drawContent, hcontent, hcontent', r.drawHeader_other editor r.viewer hmode]
    cases hs : RowContent.ofSuggestion r.suggestion with
    | editor draft => exact absurd hs (RowContent.ofSuggestion_ne_editor _ _)
    | _ => rfl

end Row

end SuggestionReview
