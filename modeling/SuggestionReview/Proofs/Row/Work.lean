import SuggestionReview.Editor.Document
import SuggestionReview.Row.Draw

namespace SuggestionReview

namespace DocumentEditor

inductive Keyed (e : DocumentEditor) (k : KeyEvent) : DocumentEditor × Option EditorEvent → Prop
  | saved (q : Patch) (hq : Patch.parse e.text = .ok q) :
      Keyed e k ({ e with fault := none }, some (.save q))
  | refused (f : Json.Failure) (hf : Patch.parse e.text = .error f) :
      Keyed e k ({ e with fault := some (faultText f) }, none)
  | changed (p : Payload) (hp : Payload.parse (e.area.key k).1.text = .ok p) :
      Keyed e k (⟨(e.area.key k).1, none⟩, some (.draft p))
  | broken (f : Json.Failure) (hf : Payload.parse (e.area.key k).1.text = .error f) :
      Keyed e k (⟨(e.area.key k).1, some (faultText f)⟩, none)
  | silent (hk : (e.area.key k).2 = false) : Keyed e k ({ e with area := (e.area.key k).1 }, none)

theorem keyed_key (e : DocumentEditor) (k : KeyEvent) : Keyed e k (e.key k) := by
  unfold key
  split
  · unfold reading
    split
    · next q hq => exact .saved q hq
    · next f hf => exact .refused f hf
  · rcases hk : e.area.key k with ⟨area, changed⟩
    obtain rfl : (e.area.key k).1 = area := by rw [hk]
    cases changed with
    | false => exact .silent (by rw [hk])
    | true =>
      simp only [reading]
      split
      · next p hp => exact .changed p hp
      · next f hf => exact .broken f hf

theorem key_save {e : DocumentEditor} {k : KeyEvent} (hc : k.code = .char 's')
    (hm : k.modifiers.control = true) : e.key k = e.reading (Patch.parse e.text) .save := by
  simp [key, hc, hm]

theorem key_save_ok {e : DocumentEditor} {k : KeyEvent} {q : Patch} (hc : k.code = .char 's')
    (hm : k.modifiers.control = true) (hq : Patch.parse e.text = .ok q) :
    e.key k = ({ e with fault := none }, some (.save q)) := by
  rw [key_save hc hm, hq]
  rfl

end DocumentEditor

namespace Row

variable {ν : Type} {r r' r'' : Row DocumentEditor ν} {k : KeyEvent}

/-- Whether a row has the suggestion, the edit state and the text of another one. -/
structure SameWork (r r' : Row DocumentEditor ν) : Prop where
  proposal : r'.proposal = r.proposal
  state : r'.state = r.state
  capabilities : r'.capabilities = r.capabilities
  bindings : r'.bindings = r.bindings
  text : r'.editor.text = r.editor.text

theorem SameWork.refl (r : Row DocumentEditor ν) : SameWork r r := ⟨rfl, rfl, rfl, rfl, rfl⟩

theorem SameWork.trans (h : SameWork r r') (h' : SameWork r' r'') : SameWork r r'' :=
  ⟨h'.proposal.trans h.proposal, h'.state.trans h.state, h'.capabilities.trans h.capabilities,
    h'.bindings.trans h.bindings, h'.text.trans h.text⟩

theorem SameWork.isEditing (h : SameWork r r') : r'.isEditing = r.isEditing :=
  congrArg EditState.isEditing h.state

theorem sameWork_loadViewer (r : Row DocumentEditor ν) (source : ViewerSource ν) :
    SameWork r (r.loadViewer source).1 := by
  unfold loadViewer
  split
  · exact ⟨rfl, rfl, rfl, rfl, rfl⟩
  · exact .refl r

theorem sameWork_moveReference (r : Row DocumentEditor ν) (forward : Bool) :
    SameWork r (r.moveReference forward) := ⟨rfl, rfl, rfl, rfl, rfl⟩

theorem sameWork_draw [Viewer ν]
    (r : Row DocumentEditor ν) (source : ViewerSource ν) (a : Area) (c : Canvas) :
    SameWork r (r.draw source a c).row := by
  simp only [draw, drawContent]
  split <;> exact ⟨rfl, rfl, rfl, rfl, rfl⟩

structure Idle (r : Row DocumentEditor ν) (out : Outcome DocumentEditor ν) : Prop where
  sameWork : SameWork r out.row
  event : ∀ p, out.event ≠ some (.save p)

theorem Idle.rest (h : SameWork r r') : Idle r r'.rest := ⟨h, fun _ ↦ nofun⟩

theorem idle_followReference (r : Row DocumentEditor ν) : Idle r r.followReference := by
  unfold followReference
  split
  · exact .rest (.refl r)
  · split
    · exact ⟨.refl r, fun _ ↦ nofun⟩
    · exact .rest (.refl r)

theorem idle_command {c : Command} (hc : c ≠ .toggleEdit) : Idle r (r.command c) := by
  cases c with
  | apply | dismiss =>
    simp only [command]
    split
    · exact ⟨.refl r, fun _ ↦ nofun⟩
    · exact .rest (.refl r)
  | toggleEdit => exact absurd rfl hc
  | nextReference => exact .rest (r.sameWork_moveReference true)
  | previousReference => exact .rest (r.sameWork_moveReference false)
  | activateReference => exact r.idle_followReference
  | moveUp | moveDown | quit => exact .rest (.refl r)

inductive Keyed (r : Row DocumentEditor ν) (k : KeyEvent) : Outcome DocumentEditor ν → Prop
  | idle {out : Outcome DocumentEditor ν} (h : Idle r out) : Keyed r k out
  | toggled : Keyed r k r.toggleEdit
  | edited (hr : r.isEditing = true) (hk : k.kind = .press) (hl : r.leavesEditor k = false) :
      Keyed r k (r.editorKey k)

theorem keyed_key (r : Row DocumentEditor ν) (k : KeyEvent) : Keyed r k (r.key k) := by
  unfold key
  split
  · exact .idle (.rest (.refl r))
  · next hk =>
    split
    · next hr =>
      split
      · exact .toggled
      · next hl => exact .edited hr (Decidable.not_not.1 hk) (Bool.eq_false_iff.2 hl)
    · split
      · next c hc =>
        by_cases hc : c = .toggleEdit
        · subst hc
          exact .toggled
        · exact .idle (idle_command hc)
      · exact .idle (.rest (.refl r))

theorem editorKey_draft {e : DocumentEditor} {p : Payload} (hr : r.isEditing = true)
    (h : r.editor.key k = (e, some (.draft p))) :
    r.editorKey k = ⟨{ r with editor := e, state := { r.state with draft := p } }, none, []⟩ := by
  have hs : r.state.isEditing = true := hr
  have hkey : PayloadEditor.key r.editor k = (e, some (.draft p)) := h
  simp [editorKey, editorEvent, EditState.step, hkey, hs]

theorem editorKey_save {e : DocumentEditor} {q : Patch} (hr : r.isEditing = true)
    (h : r.editor.key k = (e, some (.save q))) :
    r.editorKey k =
      ⟨{ r with editor := e }, some (.save (r.state.draft.merge q)),
        [.saving (r.state.draft.merge q).actionType.name, .payloadSaved r.title]⟩ := by
  have hs : r.state.isEditing = true := hr
  have hkey : PayloadEditor.key r.editor k = (e, some (.save q)) := h
  simp [editorKey, editorEvent, EditState.step, hkey, hs, title, suggestion]

theorem editorKey_silent {e : DocumentEditor} (h : r.editor.key k = (e, none)) :
    r.editorKey k = { r with editor := e }.rest := by
  have hkey : PayloadEditor.key r.editor k = (e, none) := h
  simp [editorKey, editorEvent, hkey]

/-- What is saved is the draft under the patch that the text is, and saving it changes nothing about
the work. -/
theorem key_saves {p : Payload} (h : (r.key k).event = some (.save p)) :
    r.isEditing = true ∧ SameWork r (r.key k).row ∧
      ∃ q, Patch.parse r.editor.text = .ok q ∧ p = r.state.draft.merge q := by
  have hkeyed := r.keyed_key k
  generalize r.key k = out at h hkeyed ⊢
  cases hkeyed with
  | idle hidle => exact absurd h (hidle.event p)
  | toggled => exact absurd h nofun
  | edited hr hk hl =>
    have hkeyed := r.editor.keyed_key k
    generalize hout : r.editor.key k = out at hkeyed
    cases hkeyed with
    | saved q hq =>
      rw [editorKey_save hr hout] at h ⊢
      simp only [Option.some.injEq, RowEvent.save.injEq] at h
      exact ⟨hr, ⟨rfl, rfl, rfl, rfl, rfl⟩, q, hq, h.symm⟩
    | changed p' hp =>
      rw [editorKey_draft hr hout] at h
      exact absurd h nofun
    | refused | broken | silent =>
      rw [editorKey_silent hout] at h
      exact absurd h nofun

theorem toggleEdit_refused (hc : r.capabilities.save = false) : r.toggleEdit.row = r := by
  simp [toggleEdit, EditState.step, hc, isEditing]

theorem state_toggleEdit (hc : r.capabilities.save = true) :
    r.toggleEdit.row.state = { r.state with mode := r.state.mode.toggle } := by
  simp [toggleEdit, EditState.step, hc]

theorem isEditing_toggleEdit (hc : r.capabilities.save = true) :
    r.toggleEdit.row.isEditing = !r.isEditing := by
  simp only [isEditing, state_toggleEdit hc, EditState.isEditing]
  cases r.state.mode <;> rfl

theorem editor_toggleEdit (hc : r.capabilities.save = true) (he : r.isEditing = false) :
    r.toggleEdit.row.editor = .seed r.state.draft := by
  have hedit : r.toggleEdit.row.isEditing = true := by rw [isEditing_toggleEdit hc, he, Bool.not_false]
  rw [isEditing, state_toggleEdit hc] at hedit
  simp only [toggleEdit, EditState.step, hc, if_true, he, hedit, Bool.not_false, Bool.and_self]
  rfl

theorem draft_toggleEdit (r : Row DocumentEditor ν) :
    r.toggleEdit.row.state.draft = r.state.draft := by
  cases hc : r.capabilities.save with
  | false => rw [toggleEdit_refused hc]
  | true => rw [state_toggleEdit hc]

theorem proposal_setProposal (r : Row DocumentEditor ν) (p : Proposal) (source : ViewerSource ν) :
    (r.setProposal p source).1.proposal = p :=
  (sameWork_loadViewer _ _).proposal

theorem state_setProposal (r : Row DocumentEditor ν) (p : Proposal) (source : ViewerSource ν) :
    (r.setProposal p source).1.state =
      (r.state.step (.supply p.payload) r.capabilities.save).state :=
  (sameWork_loadViewer _ _).state

def supplied (r : Row DocumentEditor ν) (given : Committed) : Row DocumentEditor ν :=
  { r with
    proposal := r.proposal.withPayload given
    state := ⟨r.state.mode, given.payload, given⟩
    editor := if r.isEditing then .seed given.payload else r.editor }

theorem sameWork_setProposal (given : Committed) (h : given.identity ≠ r.state.committed.identity)
    (source : ViewerSource ν) :
    SameWork (r.supplied given) (r.setProposal (r.proposal.withPayload given) source).1 := by
  refine .trans ?_ (sameWork_loadViewer _ _)
  have hi : (r.proposal.withPayload given).identity = given.identity := rfl
  have hp : (r.proposal.withPayload given).payload = given := rfl
  have hm : EditState.isEditing ⟨r.state.mode, given.payload, given⟩ = r.isEditing := rfl
  refine ⟨rfl, ?_, rfl, rfl, ?_⟩
  · simp [refreshHeader, supplied, EditState.step, hp, h]
  · simp only [refreshHeader, supplied, EditState.step, hi, hp, h, if_false, ne_eq, not_false_eq_true,
      decide_true, Bool.true_and, hm]
    rfl

theorem editor_loadViewer (r : Row DocumentEditor ν) (source : ViewerSource ν) :
    (r.loadViewer source).1.editor = r.editor := by
  unfold loadViewer
  split <;> rfl

theorem editor_setProposal_of_ne {p : Proposal} (h : p.identity ≠ r.state.committed.identity)
    (he : r.isEditing = true) (source : ViewerSource ν) :
    (r.setProposal p source).1.editor = .seed p.suggestion.payload := by
  have hp : p.payload.identity ≠ r.state.committed.identity := h
  have hm : EditState.isEditing ⟨r.state.mode, p.payload.payload, p.payload⟩ = r.isEditing := rfl
  simp only [setProposal, editor_loadViewer, refreshHeader, EditState.step, h, hp, if_false, ne_eq,
    not_false_eq_true, decide_true, Bool.true_and, hm, he, if_true]
  rfl

theorem editor_setProposal (given : Committed) (h : given.identity ≠ r.state.committed.identity)
    (he : r.isEditing = true) (source : ViewerSource ν) :
    (r.setProposal (r.proposal.withPayload given) source).1.editor = .seed given.payload :=
  editor_setProposal_of_ne (p := r.proposal.withPayload given) h he source

end Row

end SuggestionReview
