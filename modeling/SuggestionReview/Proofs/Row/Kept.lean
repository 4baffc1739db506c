import SuggestionReview.Row.Draw

namespace SuggestionReview

structure Standing where
  position : Nat
  focused : Bool
  loading : Bool
deriving DecidableEq

structure Card where
  proposal : Proposal
  mapping : FeatureMapping
  header : RowHeader

def Card.supply (c : Card) (given : Committed) : Card where
  proposal := c.proposal.withPayload given
  mapping := c.mapping
  header := .build (c.proposal.withPayload given).suggestion c.mapping

namespace Row

variable {ε ν : Type} {r r' : Row ε ν}

def standing (r : Row ε ν) : Standing := ⟨r.position, r.focused, r.loading⟩

def card (r : Row ε ν) : Card := ⟨r.proposal, r.mapping, r.header⟩

/-- Whether a row is another one with another editor and another code view. -/
inductive Shown (r : Row ε ν) : Row ε ν → Prop
  | mk (editor : ε) (viewer : ViewerSlot ν) : Shown r { r with editor, viewer }

theorem Shown.refl (r : Row ε ν) : Shown r r := .mk r.editor r.viewer

theorem Shown.trans {r'' : Row ε ν} (h : Shown r r') (h' : Shown r' r'') : Shown r r'' := by
  cases h
  cases h'
  exact .mk _ _

theorem Shown.standing (h : Shown r r') : r'.standing = r.standing := by
  cases h
  rfl

theorem Shown.card (h : Shown r r') : r'.card = r.card := by
  cases h
  rfl

theorem Shown.isEditing (h : Shown r r') : r'.isEditing = r.isEditing := by
  cases h
  rfl

theorem Shown.capabilities (h : Shown r r') : r'.capabilities = r.capabilities := by
  cases h
  rfl

/-- Whether a row is another one with another edit state, another chosen reference and another
editor. -/
inductive Worked (r : Row ε ν) : Row ε ν → Prop
  | mk (state : EditState) (reference : Option Nat) (editor : ε) :
    Worked r { r with state, reference, editor }

theorem Worked.refl (r : Row ε ν) : Worked r r := .mk r.state r.reference r.editor

theorem Worked.standing (h : Worked r r') : r'.standing = r.standing := by
  cases h
  rfl

theorem Worked.card (h : Worked r r') : r'.card = r.card := by
  cases h
  rfl

theorem Worked.capabilities (h : Worked r r') : r'.capabilities = r.capabilities := by
  cases h
  rfl

theorem shown_loadViewer (r : Row ε ν) (source : ViewerSource ν) :
    Shown r (r.loadViewer source).1 := by
  unfold loadViewer
  split
  · exact .mk _ _
  · exact .refl r

theorem shown_setViewer (r : Row ε ν) (source : ViewerSource ν) : Shown r (r.setViewer source).1 :=
  (Shown.mk r.editor .idle).trans (shown_loadViewer _ source)

theorem worked_followReference (r : Row ε ν) : Worked r r.followReference.row := by
  unfold followReference
  split
  · exact .refl r
  · split <;> exact .refl r

variable [PayloadEditor ε]

theorem shown_draw [Viewer ν] (r : Row ε ν) (source : ViewerSource ν) (a : Area) (c : Canvas) :
    Shown r (r.draw source a c).row := by
  simp only [draw, drawContent]
  split
  · exact .mk _ _
  · exact .refl r
  · exact .refl r
  · exact .mk _ _
  · exact .refl r

theorem worked_command (r : Row ε ν) (c : Command) : Worked r (r.command c).row := by
  cases c with
  | apply | dismiss =>
    simp only [command]
    split <;> exact .refl r
  | toggleEdit | nextReference | previousReference => exact .mk _ _ _
  | activateReference => exact r.worked_followReference
  | moveUp | moveDown | quit => exact .refl r

/-- The editor asks for nothing but to save a payload. -/
theorem editorKey_cases (r : Row ε ν) (k : KeyEvent) :
    Worked r (r.editorKey k).row ∧ ∀ e ∈ (r.editorKey k).event, ∃ p, e = .save p := by
  unfold editorKey
  rcases PayloadEditor.key r.editor k with ⟨editor, event⟩
  rcases event with - | p | q
  · exact ⟨.mk _ _ _, nofun⟩
  · exact ⟨.mk _ _ _, nofun⟩
  · refine ⟨.mk _ _ _, fun e he ↦ ?_⟩
    obtain ⟨p, -, rfl⟩ := Option.map_eq_some_iff.1 he
    exact ⟨p, rfl⟩

/-- A key does nothing, or is a command, or is for the editor. -/
theorem key_cases (r : Row ε ν) (k : KeyEvent) :
    r.key k = r.rest ∨ (∃ c, r.key k = r.command c) ∨
      r.isEditing = true ∧ r.key k = r.editorKey k := by
  unfold key
  split
  · exact .inl rfl
  · split
    · next he =>
      split
      · exact .inr (.inl ⟨.toggleEdit, rfl⟩)
      · exact .inr (.inr ⟨he, rfl⟩)
    · split
      · next c _ => exact .inr (.inl ⟨c, rfl⟩)
      · exact .inl rfl

theorem worked_key (r : Row ε ν) (k : KeyEvent) : Worked r (r.key k).row := by
  rcases r.key_cases k with h | ⟨c, h⟩ | ⟨-, h⟩
  · rw [h]
    exact .refl r
  · rw [h]
    exact r.worked_command c
  · rw [h]
    exact (r.editorKey_cases k).1

theorem save_of_editing (he : r.isEditing = true) {k : KeyEvent} {e : RowEvent}
    (h : (r.key k).event = some e) : ∃ p, e = .save p := by
  simp only [key, he, if_true] at h
  split at h
  · exact absurd h nofun
  · split at h
    · exact absurd h nofun
    · exact (r.editorKey_cases k).2 e h

theorem standing_setProposal (r : Row ε ν) (p : Proposal) (source : ViewerSource ν) :
    (r.setProposal p source).1.standing = r.standing :=
  (shown_loadViewer _ source).standing

theorem card_setProposal (r : Row ε ν) (given : Committed) (source : ViewerSource ν) :
    (r.setProposal (r.proposal.withPayload given) source).1.card = r.card.supply given :=
  (shown_loadViewer _ source).card

end Row

end SuggestionReview
