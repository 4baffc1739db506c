import SuggestionReview.Proofs.Editor
import SuggestionReview.Proofs.Review.Readable
import SuggestionReview.Proofs.TextArea.Report

namespace SuggestionReview

open Json.Reader (maxDepth exists_ok)
open Row (SameWork)

namespace Row

variable {ν : Type} {r r' : Row DocumentEditor ν} {b : Bindings} {n : Nat} {k : KeyEvent}

structure Sound (b : Bindings) (n : Nat) (r : Row DocumentEditor ν) : Prop where
  committed : r.state.committed = r.proposal.payload
  older : r.proposal.identity < n
  bindings : r.bindings = b
  seen : r.isEditing = true → ∀ p, Payload.parse r.editor.text = .ok p → r.state.draft = p

theorem Sound.sameWork (h : r.Sound b n) (hw : SameWork r r') : r'.Sound b n := by
  refine ⟨?_, ?_, hw.bindings.trans h.bindings, fun he p hp ↦ ?_⟩
  · rw [hw.state, hw.proposal, h.committed]
  · rw [hw.proposal]
    exact h.older
  · rw [hw.isEditing] at he
    rw [hw.text] at hp
    rw [hw.state]
    exact h.seen he p hp

theorem Sound.mono {m : Nat} (h : r.Sound b n) (hn : n ≤ m) : r.Sound b m :=
  ⟨h.committed, Nat.lt_of_lt_of_le h.older hn, h.bindings, h.seen⟩

theorem seen_seed {p p' : Payload} (h : p.Readable maxDepth) (hr : p.toValue.RealsReadBack)
    (hp : Payload.parse (DocumentEditor.seed p).text = .ok p') : p = p' := by
  exact Except.ok.inj ((DocumentEditor.parse_seed h hr).symm.trans hp)

theorem Sound.toggleEdit (h : r.Sound b n) (hr : r.Readable)
    (hreads : r.toggleEdit.row.isEditing = true → r.state.draft.toValue.RealsReadBack) :
    r.toggleEdit.row.Sound b n := by
  cases hc : r.capabilities.save with
  | false => rwa [toggleEdit_refused hc]
  | true =>
    refine ⟨?_, h.older, h.bindings, fun he p hp ↦ ?_⟩
    · rw [state_toggleEdit hc]
      exact h.committed
    · have hview : r.isEditing = false := by simpa [isEditing_toggleEdit hc] using he
      rw [editor_toggleEdit hc hview] at hp
      rw [r.draft_toggleEdit]
      exact seen_seed hr.draft (hreads he) hp

theorem Sound.key (h : r.Sound b n) (hr : r.Readable)
    (hreports : k.kind = .press → r.isEditing = true → r.leavesEditor k = false →
      r.editor.area.Reports k)
    (hreads : (r.key k).row.isEditing = true → (r.key k).row.state.draft.toValue.RealsReadBack) :
    (r.key k).row.Sound b n := by
  have hkeyed := r.keyed_key k
  generalize r.key k = out at hreads hkeyed ⊢
  cases hkeyed with
  | idle hidle => exact h.sameWork hidle.sameWork
  | toggled => exact h.toggleEdit hr fun he ↦ r.draft_toggleEdit ▸ hreads he
  | edited he hk hl =>
    have hkeyed := r.editor.keyed_key k
    generalize hout : r.editor.key k = out at hkeyed
    cases hkeyed with
    | saved q hq =>
      rw [editorKey_save he hout]
      exact h.sameWork ⟨rfl, rfl, rfl, rfl, rfl⟩
    | refused f hf =>
      rw [editorKey_silent hout]
      exact h.sameWork ⟨rfl, rfl, rfl, rfl, rfl⟩
    | changed p hp =>
      rw [editorKey_draft he hout]
      exact ⟨h.committed, h.older, h.bindings,
        fun _ p' hp' ↦ Except.ok.inj (hp.symm.trans hp')⟩
    | broken f hf =>
      rw [editorKey_silent hout]
      exact ⟨h.committed, h.older, h.bindings, fun _ p hp ↦ absurd (hf.symm.trans hp) nofun⟩
    | silent hs =>
      rw [editorKey_silent hout]
      exact h.sameWork ⟨rfl, rfl, rfl, rfl, hreports hk he hl hs⟩

theorem Sound.supplied (h : r.Sound b n) {p : Payload} (hp : p.Readable maxDepth)
    (hreads : r.isEditing = true → p.toValue.RealsReadBack) :
    (r.supplied ⟨n, p⟩).Sound b (n + 1) := by
  refine ⟨rfl, Nat.lt_succ_self n, h.bindings, fun he p' hp' ↦ ?_⟩
  have he : r.isEditing = true := he
  simp only [Row.supplied, he, if_true] at hp'
  exact seen_seed hp (hreads he) hp'

/-- A saved payload is handed over under an identity that no other one has. -/
theorem Sound.ne_committed (h : r.Sound b n) : n ≠ r.state.committed.identity := by
  rw [h.committed]
  exact Nat.ne_of_gt h.older

end Row

/-- The presses of control and `s` that reach the editor. -/
structure Bindings.Saves (b : Bindings) (k : KeyEvent) : Prop where
  kind : k.kind = .press
  code : k.code = .char 's'
  control : k.modifiers.control = true
  free : b.command? k ≠ some .toggleEdit

namespace Row

variable {ν : Type} {r : Row DocumentEditor ν} {b : Bindings} {k : KeyEvent}

theorem key_saving (hk : b.Saves k) (hb : r.bindings = b) (he : r.isEditing = true) :
    r.key k = r.editorKey k := by
  have hl : r.leavesEditor k = false := by simp [leavesEditor, hb, hk.free]
  simp [key, hk.kind, he, hl]

theorem key_saving_ok {q : Patch} (hk : b.Saves k) (hb : r.bindings = b) (he : r.isEditing = true)
    (hq : Patch.parse r.editor.text = .ok q) :
    (r.key k).row = { r with editor := { r.editor with fault := none } } ∧
      (r.key k).event = some (.save (r.state.draft.merge q)) := by
  rw [key_saving hk hb he, editorKey_save he (DocumentEditor.key_save_ok hk.code hk.control hq)]
  exact ⟨rfl, rfl⟩

theorem key_saving_error {x : Json.Failure} (hk : b.Saves k) (hb : r.bindings = b)
    (he : r.isEditing = true) (hx : Patch.parse r.editor.text = .error x) :
    r.key k =
      { r with editor := { r.editor with fault := some (DocumentEditor.faultText x) } }.rest := by
  have hkey : r.editor.key k =
      ({ r.editor with fault := some (DocumentEditor.faultText x) }, none) := by
    rw [DocumentEditor.key_save hk.code hk.control, hx]
    rfl
  rw [key_saving hk hb he, editorKey_silent hkey]

end Row

namespace Review

variable {ν : Type} {l l' : Review DocumentEditor ν} {f : SuggestionFile} {palette : Palette}
  {b : Bindings} {t : String}

def ReadsBack (l : Review DocumentEditor ν) : Prop :=
  ∀ r ∈ l.rows, r.isEditing = true → r.state.draft.toValue.RealsReadBack

instance (l : Review DocumentEditor ν) : Decidable l.ReadsBack :=
  inferInstanceAs (Decidable (∀ r ∈ l.rows, _ → _))

/-- Whether a step reports a change of the text that is edited, and leaves only drafts whose numbers
read back. -/
structure Faithful (l : Review DocumentEditor ν) (h : Happening) (l' : Review DocumentEditor ν) :
    Prop where
  reports : ∀ k, h = .key k → k.kind = .press → ∀ r ∈ l.selectedRow, r.isEditing = true →
    r.leavesEditor k = false → r.editor.area.Reports k
  reads : l'.ReadsBack

/-- Only pasting can fail to report a change. -/
theorem along_faithful [Viewer ν] {hs : List Happening}
    (hp : ∀ k, .key k ∈ hs → EditCommand.ofKey? k ≠ some .paste)
    (hr : Along (fun _ _ l' ↦ l'.ReadsBack) l hs) : Along Faithful l hs := by
  induction hs generalizing l with
  | nil => trivial
  | cons h hs ih =>
    intro l' hl'
    obtain ⟨hreads, hrest⟩ := hr l' hl'
    refine ⟨⟨fun k hk _ r _ _ _ ↦ ?_, hreads⟩, ih (fun k hk ↦ hp k (List.mem_cons_of_mem h hk)) hrest⟩
    exact TextArea.reports_of_no_empty_paste fun hpaste ↦
      absurd hpaste (hp k (hk ▸ List.mem_cons_self))

theorem Origin.sound {h : Happening} {r' : Row DocumentEditor ν} (ho : Origin l l' h r')
    (hr' : r' ∈ l'.rows) (hh : Faithful l h l') (hl : ∀ r ∈ l.rows, r.Readable ∧ r.Sound b l.fresh) :
    r'.Sound b l'.fresh := by
  have hreads := hh.reads r' hr'
  cases ho with
  | kept r hr hf hw => exact ((hl r hr).2.mono hf).sameWork hw
  | @keyed k _ r hr hf hw =>
    obtain ⟨hread, hsound⟩ := hl r (List.mem_of_getElem? hr)
    rw [hw.isEditing, hw.state] at hreads
    exact hf ▸ (hsound.key hread (fun hk ↦ hh.reports k rfl hk r hr) hreads).sameWork hw
  | @saved k _ r p hr he hf hw =>
    obtain ⟨hread, hsound⟩ := hl r (List.mem_of_getElem? hr)
    obtain ⟨hedit, hkept, -⟩ := Row.key_saves he
    have hrow := hsound.sameWork hkept
    have hw := (Row.sameWork_setProposal _ hrow.ne_committed l.source).trans hw
    rw [hw.isEditing, hw.state] at hreads
    exact hf ▸ (hrow.supplied (hread.saved he) hreads).sameWork hw

theorem sound_opened (f : SuggestionFile) (palette : Palette) (b : Bindings) :
    ∀ r ∈ (opened f palette b).rows, r.Sound b (opened f palette b).fresh := by
  intro r hr
  obtain ⟨m, hm, hw⟩ := exists_of_forall₂ (rows_opened f palette b) hr
  obtain ⟨i, hi, rfl⟩ := List.mem_mapIdx.1 hm
  let start : Row DocumentEditor := newRow f palette b .empty i f.suggestions[i]
  have hstart : start.Sound b f.suggestions.length := ⟨rfl, hi, rfl, nofun⟩
  exact hstart.sameWork hw

theorem sound_run?
    {l : Review DocumentEditor} {hs : List Happening} (hf : SuggestionFile.parse t = .ok f)
    (hrun : (opened f palette b).run? hs = some l) (hh : Along Faithful (opened f palette b) hs) :
    ∀ r ∈ l.rows, r.Readable ∧ r.Sound b l.fresh :=
  run?_invariant (I := fun l ↦ ∀ r ∈ l.rows, r.Readable ∧ r.Sound b l.fresh)
    (fun _ _ _ hl hh h _ hr ↦
      let ho := (turn_of_after? hl).origin hr
      ⟨ho.readable fun m hm ↦ (h m hm).1, ho.sound hr hh h⟩)
    (fun r hr ↦ ⟨readable_opened hf r hr, sound_opened f palette b r hr⟩) hh hrun

theorem key_editing {r : Row DocumentEditor ν} {k : KeyEvent} (hr : l.selectedRow = some r)
    (he : r.isEditing = true) (hk : k.kind = .press) : l.key k = l.rowKey k := by
  have hl : l.isEditing = true := (isEditing_of_selectedRow hr).trans he
  simp [key, hk, hl]

theorem rowKey_silent {r r' : Row DocumentEditor ν} {k : KeyEvent} (hr : l.selectedRow = some r)
    (hk : r.key k = r'.rest) : (l.rowKey k).1 = l.setRow l.selected r' := by
  simp [rowKey, hr, hk, Row.rest]

/-- Whether a payload became that of the selected row, as a new one, and nothing else changed about
the rows. -/
structure SavedAs (l l' : Review DocumentEditor ν) (r : Row DocumentEditor ν) (p : Payload)
    (r' : Row DocumentEditor ν) : Prop where
  selected : l'.selected = l.selected
  rows : l'.rows = l.rows.set l.selected r'
  proposal : r'.proposal = ⟨{ r.suggestion with payload := p }, l.fresh⟩
  state : r'.state = ⟨.editing, p, ⟨l.fresh, p⟩⟩
  editor : r'.editor = .seed p
  text : r'.editor.text = p.toValue.pretty
  new : ∀ s ∈ l.rows, l.fresh ≠ s.proposal.identity ∧ l.fresh ≠ s.state.committed.identity

theorem rowKey_save {r : Row DocumentEditor ν} {k : KeyEvent} {p : Payload}
    (hr : l.selectedRow = some r) (he : (r.key k).event = some (.save p)) :
    (l.rowKey k).1 = ((l.setRow l.selected (r.key k).row).save l.selected (r.key k).row p).1 := by
  simp [rowKey, hr, he, handle, getElem?_setRow hr]

theorem savedAs_of_patch {r : Row DocumentEditor ν} {k : KeyEvent} {q : Patch}
    (hl : ∀ r ∈ l.rows, r.Sound b l.fresh) (hr : l.selectedRow = some r) (he : r.isEditing = true)
    (hk : b.Saves k) (hq : Patch.parse r.editor.text = .ok q) :
    ∃ r', SavedAs l (l.key k).1 r (r.state.draft.merge q) r' := by
  have hsound := hl r (List.mem_of_getElem? hr)
  obtain ⟨hrow, hevent⟩ := Row.key_saving_ok hk hsound.bindings he hq
  have hkeep : SameWork r (r.key k).row := hrow ▸ ⟨rfl, rfl, rfl, rfl, rfl⟩
  have hedit : (r.key k).row.isEditing = true := hkeep.isEditing.trans he
  have hne := (hsound.sameWork hkeep).ne_committed
  have hwork := Row.sameWork_setProposal ⟨l.fresh, r.state.draft.merge q⟩ hne l.source
  have heditor := Row.editor_setProposal ⟨l.fresh, r.state.draft.merge q⟩ hne hedit l.source
  have hmode : (r.key k).row.state.mode = .editing := by
    simpa [Row.isEditing, EditState.isEditing] using hedit
  rw [key_editing hr he hk.kind, rowKey_save hr hevent]
  refine ⟨_, rfl, ?_, hwork.proposal.trans ?_, hwork.state.trans ?_, heditor, ?_, fun s hs ↦ ?_⟩
  · simp only [save, setRow, List.set_set]
  · simp only [Row.supplied, hkeep.proposal]
    rfl
  · simp only [Row.supplied, hmode]
  · rw [heditor, DocumentEditor.text_seed]
  · have h := hl s hs
    exact ⟨Nat.ne_of_gt h.older, h.ne_committed⟩

/-- In every review that is reached by keys, ticks and frames, while a suggestion is edited: where the
text is a payload, that is the draft, and saving makes it the payload, under a new identity and with
the row still edited; where the text is not even a patch, saving does nothing but say so. -/
theorem saved_as_seen
    {l : Review DocumentEditor} {hs : List Happening} (hf : SuggestionFile.parse t = .ok f)
    (hrun : (opened f palette b).run? hs = some l) (hh : Along Faithful (opened f palette b) hs)
    {r : Row DocumentEditor} (hr : l.selectedRow = some r) (he : r.isEditing = true) :
    (∀ p, Payload.parse r.editor.text = .ok p → r.state.draft = p ∧
      ∀ k, b.Saves k → ∃ r', SavedAs l (l.key k).1 r p r') ∧
    ∀ x, Patch.parse r.editor.text = .error x → ∀ k, b.Saves k → (l.key k).1 = l.setRow l.selected
      { r with editor := { r.editor with fault := some (DocumentEditor.faultText x) } } := by
  have hsound := sound_run? hf hrun hh
  have hrow := (hsound r (List.mem_of_getElem? hr)).2
  refine ⟨fun p hp ↦ ?_, fun x hx k hk ↦ ?_⟩
  · obtain rfl := hrow.seen he p hp
    refine ⟨rfl, fun k hk ↦ ?_⟩
    obtain ⟨q, hq, hmerge⟩ := Payload.merge_of_parse hp
    have hsaved := savedAs_of_patch (fun s hs ↦ (hsound s hs).2) hr he hk hq
    rwa [hmerge] at hsaved
  · rw [key_editing hr he hk.kind]
    exact rowKey_silent hr (Row.key_saving_error hk hrow.bindings he hx)

theorem saved_as_seen_typed :
    ∃ f, SuggestionFile.parse "\x7b\"actions\":[\x7b\"title\":\"Sum\",\"payload\":\x7b\"k\":[1.5],
      \"action_type\":\"sum\",\"axis\":\"row\",\"code\":null\x7d\x7d]\x7d" = .ok f ∧
    ∃ l ∈ (opened f .dark .standard).run? ([.char 'e', .down, .last, .left, .left, .char 's'].map
        fun c ↦ .key (.press c .none)),
    ∃ r ∈ l.selectedRow, ∃ p, Payload.parse r.editor.text = .ok p ∧ r.state.draft = p ∧
      ∃ r', SavedAs l (l.key (.press (.char 's') ⟨true, false, false⟩)).1 r p r' := by
  refine (exists_ok (P := fun f ↦
    Along (fun _ _ l' ↦ l'.ReadsBack) (opened f .dark .standard)
      ([.char 'e', .down, .last, .left, .left, .char 's'].map fun c ↦ .key (.press c .none)) ∧
    ∃ l ∈ (opened f .dark .standard).run? ([.char 'e', .down, .last, .left, .left, .char 's'].map
        fun c ↦ .key (.press c .none)),
    ∃ r ∈ l.selectedRow, r.isEditing = true ∧ ∃ p ∈ (Payload.parse r.editor.text).toOption, True)
    (by decide +kernel)).imp fun f ⟨hf, hreads, l, hl, r, hr, he, hread⟩ ↦ ⟨hf, l, hl, r, hr, ?_⟩
  obtain ⟨p, hp, -⟩ := exists_ok hread
  have hpaste : ∀ c ∈ [KeyCode.char 'e', .down, .last, .left, .left, .char 's'],
      EditCommand.ofKey? (.press c .none) ≠ some .paste := by decide
  have hfaithful := along_faithful (fun k hk ↦ by
    obtain ⟨c, hc, hck⟩ := List.mem_map.1 hk
    exact Happening.key.inj hck ▸ hpaste c hc) hreads
  obtain ⟨hdraft, hsave⟩ := (saved_as_seen hf hl hfaithful hr he).1 p hp
  exact ⟨p, hp, hdraft, hsave _ ⟨rfl, rfl, rfl, by decide +kernel⟩⟩

end Review

end SuggestionReview
