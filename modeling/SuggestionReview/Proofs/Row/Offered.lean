import SuggestionReview.Proofs.Review.Hints
import SuggestionReview.Proofs.Row.UpToDate

namespace SuggestionReview

theorem Affordance.of_eq_visible_iff {present loading : Bool} :
    of present loading = visible ↔ (present && !loading) = true := by
  cases present <;> cases loading <;> decide

theorem References.actionableCount_pos_iff {r : References} :
    0 < r.actionableCount ↔ ∃ piece ∈ r.pieces, piece.isActionable = true := by
  rw [actionableCount, List.length_pos_iff_exists_mem]
  exact exists_congr fun _ ↦ List.mem_filter

namespace Row

variable {ε ν : Type} {r start : Row ε ν} {c : Command} {k : KeyEvent}

/-- Whether a row that is not edited has something to do at a command. -/
def Answers (r : Row ε ν) : Command → Prop
  | .apply => r.applyControl = .visible
  | .dismiss => r.dismissControl = .visible
  | .toggleEdit => r.capabilities.save = true
  | .nextReference | .previousReference | .activateReference =>
    0 < r.header.references.actionableCount
  | .moveUp | .moveDown | .quit => False

theorem mem_supported_iff (hview : r.isEditing = false) : c ∈ r.supported ↔ r.Answers c := by
  simp only [supported, hview, Bool.false_eq_true, if_false, List.mem_append]
  cases c <;> simp [Answers, applyControl, dismissControl, Affordance.of_eq_visible_iff]

theorem InRange.reference_eq_none (h : r.InRange)
    (hcount : r.header.references.actionableCount = 0) : r.reference = none := by
  cases hr : r.reference with
  | none => rfl
  | some nth => exact absurd (h nth hr) (by omega)

theorem moveReference_of_none (hcount : r.header.references.actionableCount = 0)
    (hreference : r.reference = none) (forward : Bool) : r.moveReference forward = r := by
  simp only [moveReference, hcount, if_true, ← hreference]

variable [PayloadEditor ε]

theorem row_toggleEdit_of_refused (hsave : r.capabilities.save = false) :
    r.toggleEdit.row = r := by
  simp [toggleEdit, EditState.step, hsave, isEditing]

/-- A command that a row does not answer to leaves it as it is. -/
theorem InRange.command_of_not_answers (h : r.InRange) (hc : ¬r.Answers c) :
    (r.command c).event = none ∧ (r.command c).row = r := by
  cases c with
  | apply =>
    have hcommand : r.command .apply = r.rest := if_neg hc
    exact hcommand ▸ ⟨rfl, rfl⟩
  | dismiss =>
    have hcommand : r.command .dismiss = r.rest := if_neg hc
    exact hcommand ▸ ⟨rfl, rfl⟩
  | toggleEdit => exact ⟨rfl, row_toggleEdit_of_refused (Bool.eq_false_iff.2 hc)⟩
  | nextReference | previousReference =>
    have hcount := Nat.eq_zero_of_not_pos hc
    exact ⟨rfl, moveReference_of_none hcount (h.reference_eq_none hcount) _⟩
  | activateReference =>
    have hnone := h.reference_eq_none (Nat.eq_zero_of_not_pos hc)
    have hcommand : r.command .activateReference = r.rest := by
      simp only [Row.command, followReference, chosen, hnone, Option.bind_none]
    exact hcommand ▸ ⟨rfl, rfl⟩
  | moveUp | moveDown | quit => exact ⟨rfl, rfl⟩

theorem event_command_apply_iff :
    (r.command .apply).event = some .apply ↔ r.applyControl = .visible := by
  rw [command]
  split
  · next h => exact iff_of_true rfl h
  · next h => exact iff_of_false (Option.some_ne_none _).symm h

theorem event_command_dismiss_iff :
    (r.command .dismiss).event = some .dismiss ↔ r.dismissControl = .visible := by
  rw [command]
  split
  · next h => exact iff_of_true rfl h
  · next h => exact iff_of_false (Option.some_ne_none _).symm h

theorem isEditing_toggleEdit_iff (hview : r.isEditing = false) :
    r.toggleEdit.row.isEditing = true ↔ r.capabilities.save = true := by
  rw [isEditing_toggleEdit_eq, hview, Bool.false_xor]

def Presses (r : Row ε ν) (k : KeyEvent) (c : Command) : Prop :=
  k.kind = .press ∧ r.bindings.command? k = some c

theorem Presses.key_eq (h : r.Presses k c) (hview : r.isEditing = false) :
    r.key k = r.command c :=
  key_eq_command h.1 h.2 fun he ↦ absurd (hview.symm.trans he) Bool.false_ne_true

/-- Whether what a row says that it supports is what it shows and what its keys do. -/
structure Candid (r : Row ε ν) : Prop where
  inert : ∀ k c, r.Presses k c → c ∉ r.supported → (r.key k).event = none ∧ (r.key k).row = r
  apply_shown : .apply ∈ r.supported ↔ r.face.apply = .visible
  apply_done : ∀ k, r.Presses k .apply →
    (.apply ∈ r.supported ↔ (r.key k).event = some .apply)
  dismiss_shown : .dismiss ∈ r.supported ↔ r.face.dismiss = .visible
  dismiss_done : ∀ k, r.Presses k .dismiss →
    (.dismiss ∈ r.supported ↔ (r.key k).event = some .dismiss)
  edit_shown : .toggleEdit ∈ r.supported ↔ r.face.edit = true
  edit_done : ∀ k, r.Presses k .toggleEdit →
    (.toggleEdit ∈ r.supported ↔ (r.key k).row.isEditing = true)
  references : ∀ c ∈ [Command.nextReference, .previousReference, .activateReference],
    c ∈ r.supported ↔ ∃ piece ∈ r.face.header.references.pieces, piece.isActionable = true

theorem InRange.candid (h : r.InRange) (hview : r.isEditing = false) : r.Candid where
  inert k c hk hc := by
    rw [mem_supported_iff hview] at hc
    rw [hk.key_eq hview]
    exact h.command_of_not_answers hc
  apply_shown := mem_supported_iff hview
  apply_done k hk := by
    rw [hk.key_eq hview, event_command_apply_iff]
    exact mem_supported_iff hview
  dismiss_shown := mem_supported_iff hview
  dismiss_done k hk := by
    rw [hk.key_eq hview, event_command_dismiss_iff]
    exact mem_supported_iff hview
  edit_shown := mem_supported_iff hview
  edit_done k hk := by
    rw [hk.key_eq hview]
    exact (mem_supported_iff hview).trans (isEditing_toggleEdit_iff hview).symm
  references c hc := by
    have hanswers : r.Answers c ↔ 0 < r.header.references.actionableCount := by
      simp only [List.mem_cons, List.not_mem_nil, or_false] at hc
      rcases hc with rfl | rfl | rfl <;> rfl
    rw [mem_supported_iff hview, hanswers]
    exact References.actionableCount_pos_iff

/-- Whatever was done to a new row: as long as it is not edited, it supports applying and dismissing
exactly where their controls are visible and their keys ask for it, editing exactly where its control
is there and its key starts it, and the commands for references exactly where there is one that leads
somewhere; and a key of a command that it does not support does nothing. -/
theorem candid_performAll [Viewer ν] (hstart : start.IsNew) {os : List (Operation ν)}
    (hview : (start.performAll os).isEditing = false) : (start.performAll os).Candid :=
  (upToDate_performAll hstart.upToDate os).inRange.candid hview

def stranding : List (Operation ν) :=
  [.capabilities .all, .command .nextReference, .loading true, .mapping (.ofList [])]

/-- In a busy row without references the keys for applying and for references do nothing, and the one
for editing starts it. -/
theorem candid_performAll_stranded :
    (average.performAll stranding).isEditing = false ∧
      ((average.performAll stranding).key (.press (.char 'a') .none)).event ≠ some .apply ∧
      ((average.performAll stranding).key (.press .tab .none)).row = average.performAll stranding ∧
      ((average.performAll stranding).key (.press (.char 'e') .none)).row.isEditing = true := by
  have hview : (average.performAll stranding).isEditing = false := rfl
  have hcandid := candid_performAll isNew_average hview
  have happly : (average.performAll stranding).Presses (.press (.char 'a') .none) .apply :=
    ⟨rfl, by decide +kernel⟩
  have htab : (average.performAll stranding).Presses (.press .tab .none) .nextReference :=
    ⟨rfl, by decide +kernel⟩
  have hedit : (average.performAll stranding).Presses (.press (.char 'e') .none) .toggleEdit :=
    ⟨rfl, by decide +kernel⟩
  have hunbusy : Command.apply ∉ (average.performAll stranding).supported := by decide +kernel
  have hunknown : Command.nextReference ∉ (average.performAll stranding).supported := by
    decide +kernel
  exact ⟨hview, fun h ↦ hunbusy ((hcandid.apply_done _ happly).2 h), (hcandid.inert _ _ htab hunknown).2,
    (hcandid.edit_done _ hedit).1 (by decide +kernel)⟩

end Row

end SuggestionReview
