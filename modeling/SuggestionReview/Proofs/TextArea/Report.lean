import SuggestionReview.TextArea.Keys

namespace SuggestionReview.TextArea

variable {t t' : TextArea} {out : TextArea × Bool}

def Tells (t : TextArea) (out : TextArea × Bool) : Prop := out.2 = false → out.1.lines = t.lines

theorem Tells.changed (t t' : TextArea) : Tells t (t', true) := fun h ↦ Bool.noConfusion h

theorem Tells.of_lines {b : Bool} (h : t'.lines = t.lines) : Tells t (t', b) := fun _ ↦ h

theorem Tells.trans (h : t'.lines = t.lines) (ht : Tells t' out) : Tells t out :=
  fun hout ↦ (ht hout).trans h

theorem deleteSelection_tells (t : TextArea) : Tells t t.deleteSelection := by
  unfold deleteSelection
  split
  · exact .changed _ _
  · exact .of_lines rfl

theorem orSelection_tells {f : TextArea → TextArea × Bool} (hf : ∀ t, Tells t (f t)) :
    Tells t (t.orSelection f) := by
  have ht := t.deleteSelection_tells
  unfold orSelection
  split
  · exact .changed _ _
  · next h =>
    rw [h] at ht
    exact (hf _).trans (ht rfl)

theorem orElse_tells {f : TextArea → TextArea × Bool} (h : Tells t out) (hf : ∀ t, Tells t (f t)) :
    Tells t (orElse out f) := by
  unfold orElse
  split
  · next hout => exact fun hf ↦ absurd (hout.symm.trans hf) (by decide)
  · next hout => exact (hf _).trans (h (Bool.eq_false_iff.2 hout))

theorem joinAbove_tells (t : TextArea) : Tells t t.joinAbove := by
  unfold joinAbove
  split
  · exact .of_lines rfl
  · exact .changed _ _

theorem eraseBack_tells (t : TextArea) : Tells t t.eraseBack := by
  simp only [eraseBack]
  split
  · exact t.joinAbove_tells
  · exact .changed _ _

theorem eraseForward_tells (t : TextArea) : Tells t t.eraseForward := by
  unfold eraseForward
  split
  · exact .of_lines rfl
  · exact (eraseBack_tells _).trans rfl

theorem eraseColumns_tells (t : TextArea) (start stop : Nat) : Tells t (t.eraseColumns start stop) := by
  unfold eraseColumns
  split
  · exact .of_lines rfl
  · exact .changed _ _

theorem eraseWordBack_tells (t : TextArea) : Tells t t.eraseWordBack := by
  simp only [eraseWordBack]
  split
  · exact t.joinAbove_tells
  · exact t.eraseColumns_tells _ _

theorem eraseWordForward_tells (t : TextArea) : Tells t t.eraseWordForward := by
  simp only [eraseWordForward]
  split
  · exact t.eraseColumns_tells _ _
  · split
    · exact t.eraseColumns_tells _ _
    · split
      · exact (joinAbove_tells _).trans rfl
      · exact .of_lines rfl

theorem undo_tells (t : TextArea) : Tells t t.undo := by
  unfold undo
  split
  · exact .of_lines rfl
  · exact .changed _ _

theorem redo_tells (t : TextArea) : Tells t t.redo := by
  unfold redo
  split
  · exact .of_lines rfl
  · exact .changed _ _

theorem lines_deleteSelection (h : t.selected? = none) : t.deleteSelection.1.lines = t.lines := by
  simp [deleteSelection, h, deselect]

theorem clipboard_deleteSelection (t : TextArea) : t.deleteSelection.1.clipboard = t.clipboard := by
  unfold deleteSelection
  split <;> rfl

theorem paste_tells (h : t.clipboard = [[]] → t.selected? = none) : Tells t t.paste := by
  simp only [paste]
  rw [clipboard_deleteSelection]
  split
  · next hempty => exact .of_lines (lines_deleteSelection (h hempty))
  · exact .changed _ _

theorem keep_lines (t : TextArea) : t.keep.lines = t.lines := by
  unfold keep
  split <;> rfl

theorem moveCursor_lines (t : TextArea) (m : Motion) (extend : Bool) :
    (t.moveCursor m extend).lines = t.lines := by
  unfold moveCursor
  split <;> rfl

theorem run_tells {c : EditCommand} (h : c = .paste → t.clipboard = [[]] → t.selected? = none) :
    Tells t (t.run c) := by
  cases c with
  | insert | newline | tab => exact .changed _ _
  | deleteBack => exact orSelection_tells eraseBack_tells
  | deleteForward => exact orSelection_tells eraseForward_tells
  | deleteToEnd =>
    exact orSelection_tells fun t ↦ orElse_tells (t.eraseColumns_tells _ _) eraseForward_tells
  | deleteToStart =>
    exact orSelection_tells fun t ↦ orElse_tells (t.eraseColumns_tells _ _) joinAbove_tells
  | deleteWordBack => exact orSelection_tells eraseWordBack_tells
  | deleteWordForward => exact orSelection_tells eraseWordForward_tells
  | undo => exact t.undo_tells
  | redo => exact t.redo_tells
  | paste => exact paste_tells (h rfl)
  | cut => exact (deleteSelection_tells _).trans t.keep_lines
  | copy => exact .of_lines t.keep_lines
  | move m extend => exact .of_lines (t.moveCursor_lines m extend)
  | pageDown | pageUp => exact .of_lines (moveCursor_lines _ _ _)

/-- Whether a key that changes the text is reported to do so. -/
def Reports (t : TextArea) (k : KeyEvent) : Prop :=
  (t.key k).2 = false → (t.key k).1.text = t.text

/-- Every key that changes the text is reported, but for one that puts an empty clipboard in place
of a selection. -/
theorem reports_of_no_empty_paste {k : KeyEvent}
    (h : EditCommand.ofKey? k = some .paste → t.clipboard = [[]] → t.selected? = none) :
    t.Reports k := by
  have htells : Tells t (t.key k) := by
    unfold key
    split
    · next c hc => exact run_tells fun hp ↦ h (hp ▸ hc)
    · exact .of_lines rfl
  exact fun hout ↦ congrArg Buffer.text (htells hout)

end SuggestionReview.TextArea
