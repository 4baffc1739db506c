import SuggestionReview.Editor.Document
import SuggestionReview.Proofs.Keys.Bindings
import SuggestionReview.Proofs.Review.Carried
import SuggestionReview.Proofs.Review.Modal

namespace SuggestionReview

def Bindings.leavingKey (b : Bindings) : String := (b.controlHint? .toggleEdit).getD "Ctrl+e"

namespace Row

variable {ε ν : Type} {r : Row ε ν}

theorem editSpans_of_editing (he : r.isEditing = true) (hs : r.capabilities.save = true) :
    r.editSpans = [⟨hint r.bindings.leavingKey "view", r.palette.normalStyle⟩] := by
  have hmode : r.state.mode = .editing := beq_iff_eq.1 he
  rw [editSpans, if_pos hs, hmode]
  rfl

theorem leavesEditor_iff {k : KeyEvent} : r.leavesEditor k = true ↔
    k.modifiers.control = true ∧ r.bindings.command? k = some .toggleEdit := by
  rw [leavesEditor, Bool.and_eq_true, beq_iff_eq]

variable [PayloadEditor ε]

theorem isEditing_editorKey (r : Row ε ν) (k : KeyEvent) :
    (r.editorKey k).row.isEditing = r.isEditing := by
  unfold editorKey
  rcases PayloadEditor.key r.editor k with ⟨editor, - | p | q⟩
  · rfl
  · exact (r.state.isEditing_step (.draft p, r.capabilities.save)).trans (Bool.xor_false _)
  · exact (r.state.isEditing_step (.save q, r.capabilities.save)).trans (Bool.xor_false _)

/-- Which keys end editing. -/
theorem isEditing_key_iff (he : r.isEditing = true) (hs : r.capabilities.save = true)
    {k : KeyEvent} : (r.key k).row.isEditing = false ↔
      k.kind = .press ∧ k.modifiers.control = true ∧
        r.bindings.command? k = some .toggleEdit := by
  rw [← leavesEditor_iff]
  simp only [key, he, if_true]
  split
  · next hkind => simp [rest, he, hkind]
  · next hkind =>
    split
    · next hleaves =>
      have hends : r.toggleEdit.row.isEditing = false := by
        rw [isEditing_toggleEdit_eq, he, hs]
        rfl
      exact iff_of_true hends ⟨Decidable.not_not.1 hkind, hleaves⟩
    · next hleaves =>
      rw [isEditing_editorKey, he]
      exact iff_of_false Bool.false_ne_true.symm fun h ↦ hleaves h.2

end Row

namespace Review

variable {ε ν : Type} [PayloadEditor ε] {l : Review ε ν} {r : Row ε ν}

/-- Whether a key leaves the selected row not edited. -/
def EndsEditing (l : Review ε ν) (k : KeyEvent) : Prop :=
  ∃ r ∈ (l.key k).1.rows[l.selected]?, r.isEditing = false

theorem exists_row_key (hr : l.selectedRow = some r) (he : r.isEditing = true) (k : KeyEvent) :
    ∃ r' ∈ (l.key k).1.rows[l.selected]?, r'.isEditing = (r.key k).row.isEditing := by
  have hl : l.isEditing = true := (isEditing_of_selectedRow hr).trans he
  have hkeyed := l.keyed_key k
  generalize (l.key k).1 = l' at hkeyed
  cases hkeyed with
  | ignored hk =>
    have hkind : k.kind ≠ .press := fun hkind ↦ by simp [reached?, hkind, hl, hr] at hk
    exact ⟨r, hr, by rw [Row.key, if_pos hkind]; rfl⟩
  | quit _ hview | moved _ _ hview => exact absurd (hview.symm.trans hl) Bool.false_ne_true
  | worked r' hk =>
    obtain rfl := Option.some.inj ((selectedRow_of_reached hk).symm.trans hr)
    exact ⟨_, getElem?_setRow hr _, rfl⟩
  | answered r' e hk hevent =>
    obtain rfl := Option.some.inj ((selectedRow_of_reached hk).symm.trans hr)
    obtain ⟨p, rfl⟩ := Row.save_of_editing he hevent
    simp only [handle, getElem?_setRow hr]
    exact ⟨_, getElem?_setRow (getElem?_setRow hr _) _, Row.isEditing_setProposal _ _ _⟩

theorem endsEditing_iff (hr : l.selectedRow = some r) (he : r.isEditing = true)
    (hs : r.capabilities.save = true) {k : KeyEvent} : l.EndsEditing k ↔
      k.kind = .press ∧ k.modifiers.control = true ∧
        r.bindings.command? k = some .toggleEdit := by
  rw [← Row.isEditing_key_iff he hs]
  obtain ⟨r', hr', hediting⟩ := exists_row_key hr he k
  rw [← hediting]
  constructor
  · rintro ⟨r'', hr'', hends⟩
    obtain rfl := Option.some.inj (hr'.symm.trans hr'')
    exact hends
  · exact fun hends ↦ ⟨r', hr', hends⟩

variable {f : SuggestionFile} {palette : Palette} {editor : ε} {choices : List (Choice ν)}
  {hs : List Happening}

variable [Viewer ν]

theorem save_run? {b : Bindings} (h : (built f palette b editor choices).run? hs = some l)
    (hr : r ∈ l.rows) (he : r.isEditing = true) : r.capabilities.save = true := by
  refine (carried_run? h).lasts (P := fun r ↦ r.isEditing = true → r.capabilities.save = true)
    (fun r o ho hsave hediting ↦ ?_) (fun r hr hediting ↦ ?_) r hr he
  · rw [Row.capabilities_perform fun c hc ↦ by simp [hc, Row.Operation.isRoutine] at ho]
    exact (Row.isEditing_perform hediting).elim hsave id
  · exact absurd (List.mem_map.2 ⟨r, hr, hediting⟩) (viewed_built f palette b editor choices)

/-- In every review that is reached by keys, ticks and frames, what the header of a row that is
edited says, and which keys end editing. -/
theorem leaving_run? {b : Bindings} (h : (built f palette b editor choices).run? hs = some l)
    (hr : l.selectedRow = some r) (he : r.isEditing = true) :
    r.editSpans = [⟨Row.hint b.leavingKey "view", r.palette.normalStyle⟩] ∧
      ∀ k, l.EndsEditing k ↔
        k.kind = .press ∧ k.modifiers.control = true ∧ b.command? k = some .toggleEdit := by
  have hmem : r ∈ l.rows := List.mem_of_getElem? hr
  have hsave := save_run? h hmem he
  obtain ⟨-, -, hbindings⟩ := Row.Setting.mk.inj (setting_run? h hmem)
  rw [← hbindings]
  exact ⟨Row.editSpans_of_editing he hsave, fun k ↦ endsEditing_iff hr he hsave⟩

/-- In every review with bindings without warnings that is reached by keys, ticks and frames and
whose selected row is edited, the keys that end editing are the control keys that are bound to it.
The key that the header names is one of them, if a spelling that begins with `Ctrl+` is bound to it
and nothing else is bound to the key that is named. -/
theorem endsEditing_run? {list : List Binding} (hvalid : (Bindings.ofList list).warnings = [])
    (h : (built f palette (.ofList list) editor choices).run? hs = some l)
    (hr : l.selectedRow = some r) (he : r.isEditing = true) :
    r.editSpans =
        [⟨Row.hint (Bindings.ofList list).leavingKey "view", r.palette.normalStyle⟩] ∧
      (∀ k, l.EndsEditing k ↔ k.kind = .press ∧ k.modifiers.control = true ∧
        (Bindings.ofList list).command? k = some .toggleEdit) ∧
      ((∃ b ∈ list, b.command = .toggleEdit ∧ KeyPattern.beginsWithControl b.key = true) →
        (∀ b ∈ list, KeyPattern.parse b.key = KeyPattern.parse (Bindings.ofList list).leavingKey →
          b.command = .toggleEdit) →
        ∃ p, KeyPattern.parse (Bindings.ofList list).leavingKey = .ok p ∧
          l.EndsEditing (.press p.code p.modifiers)) := by
  obtain ⟨hspans, hends⟩ := leaving_run? h hr he
  refine ⟨hspans, hends, fun hcontrol honly ↦ ?_⟩
  obtain ⟨s, hs⟩ := Bindings.exists_controlHint? hcontrol
  have hnamed : (Bindings.ofList list).leavingKey = s := by
    rw [Bindings.leavingKey, hs, Option.getD_some]
  rw [hnamed] at honly ⊢
  obtain ⟨p, hp, hcontrol, hcommand⟩ := Bindings.command?_of_controlHint? hvalid hs honly
  exact ⟨p, hp, (hends _).2 ⟨rfl, hcontrol, hcommand⟩⟩

theorem endsEditing_run?_standard :
    ∃ l ∈ (built (.sums 1) .dark .standard DocumentEditor.empty []).run?
        [.key (.press (.char 'e') .none)],
      Bindings.standard.leavingKey = "Ctrl+e" ∧
        l.EndsEditing (.press (.char 'e') ⟨true, false, false⟩) := by
  have hrun : ∃ l ∈ (built (.sums 1) .dark .standard DocumentEditor.empty []).run?
      [.key (.press (.char 'e') .none)], ∃ r ∈ l.selectedRow, r.isEditing = true := by
    decide +kernel
  have hnamed : Bindings.standard.leavingKey = "Ctrl+e" := by decide +kernel
  have hparse : KeyPattern.parse "Ctrl+e" = .ok ⟨.char 'e', ⟨true, false, false⟩, false⟩ := by
    decide +kernel
  obtain ⟨l, hl, r, hr, he⟩ := hrun
  obtain ⟨-, -, hends⟩ := endsEditing_run? Bindings.warnings_standard hl hr he
  obtain ⟨p, hp, hends⟩ := hends (by decide +kernel) (by decide +kernel)
  obtain rfl := Except.ok.inj (hparse.symm.trans (hnamed ▸ hp))
  exact ⟨l, hl, hnamed, hends⟩

def plain : List Binding :=
  [⟨"Up", .moveUp⟩, ⟨"Down", .moveDown⟩, ⟨"a", .apply⟩, ⟨"e", .toggleEdit⟩, ⟨"x", .dismiss⟩,
   ⟨"Tab", .nextReference⟩, ⟨"h", .previousReference⟩, ⟨"Enter", .activateReference⟩, ⟨"q", .quit⟩]

/-- With them a row that is edited cannot be left, and its header names a key all the same. -/
theorem not_endsEditing_plain :
    (Bindings.ofList plain).warnings = [] ∧
      ∃ l ∈ (built (.sums 1) .dark (.ofList plain) DocumentEditor.empty []).run?
          [.key (.press (.char 'e') .none)],
        ∃ r, l.selectedRow = some r ∧ r.isEditing = true ∧
          r.editSpans = [⟨Row.hint "Ctrl+e" "view", r.palette.normalStyle⟩] ∧
          ∀ k, ¬l.EndsEditing k := by
  have hrun : ∃ l ∈ (built (.sums 1) .dark (.ofList plain) DocumentEditor.empty []).run?
      [.key (.press (.char 'e') .none)], ∃ r ∈ l.selectedRow, r.isEditing = true := by
    decide +kernel
  have hnamed : (Bindings.ofList plain).leavingKey = "Ctrl+e" := by decide +kernel
  have hplain : ∀ x ∈ (Bindings.ofList plain).table,
      x.2 = .toggleEdit → x.1.modifiers.control = false := by decide +kernel
  obtain ⟨l, hl, r, hr, he⟩ := hrun
  obtain ⟨hspans, hends⟩ := leaving_run? hl hr he
  refine ⟨by decide +kernel, l, hl, r, hr, he, hnamed ▸ hspans, fun k hk ↦ ?_⟩
  obtain ⟨-, hcontrol, hcommand⟩ := (hends k).1 hk
  have hnone := hplain _ (Bindings.mem_of_command? hcommand) rfl
  exact absurd (hnone.symm.trans hcontrol) Bool.false_ne_true

end Review

end SuggestionReview
