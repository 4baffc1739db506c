import SuggestionReview.Proofs.Reference
import SuggestionReview.Proofs.Row.History
import SuggestionReview.Proofs.Row.Kept

namespace SuggestionReview.Row

inductive Operation (ν : Type := CodeView) where
  | key (k : KeyEvent)
  | command (c : Command)
  | propose (p : Proposal) (source : ViewerSource ν)
  | features (features : List Feature) (mapping : FeatureMapping)
  /-- The mapping alone, where the columns are the ones that are there. -/
  | mapping (mapping : FeatureMapping)
  | loading (loading : Bool)
  | capabilities (capabilities : Capabilities)
  | place (position : Nat) (numbered bordered focused : Bool)
  | dress (palette : Palette) (bindings : Bindings)
  | viewer (source : ViewerSource ν)
  | update (source : ViewerSource ν)
  | draw (source : ViewerSource ν) (a : Area) (c : Canvas)

variable {ε ν : Type}

def new (p : Proposal) (features : List Feature) (mapping : FeatureMapping) (position : Nat)
    (palette : Palette) (editor : ε) (source : ViewerSource ν) : Row ε ν :=
  ((mount p features mapping position palette editor).loadViewer source).1

def Headed (r : Row ε ν) : Prop := r.header = .build r.suggestion r.mapping

theorem Headed.of_card {r r' : Row ε ν} (h : r.Headed) (hcard : r'.card = r.card) : r'.Headed := by
  obtain ⟨hproposal, hmapping, hheader⟩ := Card.mk.inj hcard
  rw [Headed, hheader, suggestion, hproposal, hmapping]
  exact h

theorem Headed.exists_of_chosen {r : Row ε ν} (h : r.Headed) {name : String} {column : Nat}
    (hchosen : r.chosen = some (.reference name column)) :
    name ∈ r.suggestion.payload.arguments ∧ r.mapping.get? name = some column := by
  obtain ⟨nth, -, hnth⟩ := Option.bind_eq_some_iff.1 hchosen
  rw [h] at hnth
  obtain ⟨name', hname, column', hcolumn, hpiece⟩ := References.exists_of_actionable hnth
  obtain ⟨rfl, rfl⟩ := ReferencePiece.reference.inj hpiece
  exact ⟨hname, hcolumn⟩

/-- Whether a row can ask for something. -/
inductive Asks (r : Row ε ν) : RowEvent → Prop
  | apply (h : r.applyControl = .visible) : Asks r .apply
  | dismiss (h : r.dismissControl = .visible) : Asks r .dismiss
  | navigate (name : String) (column : Nat) (h : r.chosen = some (.reference name column)) :
    Asks r (.navigate column)
  | save (p : Payload) (h : r.isEditing = true) : Asks r (.save p)

theorem asks_of_none {r : Row ε ν} {e : RowEvent} (h : none = some e) : Asks r e :=
  absurd h (Option.some_ne_none e).symm

theorem asks_followReference {r : Row ε ν} {e : RowEvent} (h : r.followReference.event = some e) :
    Asks r e := by
  unfold followReference at h
  split at h
  · exact asks_of_none h
  · next piece hpiece =>
    cases piece with
    | reference name column =>
      obtain rfl := Option.some.inj h
      exact .navigate name column hpiece
    | label | separator => exact asks_of_none h

theorem row_followReference (r : Row ε ν) : r.followReference.row = r := by
  unfold followReference
  split
  · rfl
  · split <;> rfl

variable [PayloadEditor ε] {r : Row ε ν} {e : RowEvent}

theorem asks_command {c : Command} (h : (r.command c).event = some e) : Asks r e := by
  cases c with
  | apply =>
    simp only [command] at h
    split at h
    · next hvisible =>
      obtain rfl := Option.some.inj h
      exact .apply hvisible
    · exact asks_of_none h
  | dismiss =>
    simp only [command] at h
    split at h
    · next hvisible =>
      obtain rfl := Option.some.inj h
      exact .dismiss hvisible
    · exact asks_of_none h
  | activateReference => exact asks_followReference h
  | toggleEdit | nextReference | previousReference | moveUp | moveDown | quit => exact asks_of_none h

theorem asks_key {k : KeyEvent} (h : (r.key k).event = some e) : Asks r e := by
  rcases r.key_cases k with hk | ⟨c, hk⟩ | ⟨he, hk⟩
  · rw [hk] at h
    exact asks_of_none h
  · rw [hk] at h
    exact asks_command h
  · rw [hk] at h
    obtain ⟨p, rfl⟩ := (r.editorKey_cases k).2 e h
    exact .save p he

theorem isEditing_toggleEdit_eq (r : Row ε ν) :
    r.toggleEdit.row.isEditing = (r.isEditing ^^ r.capabilities.save) :=
  r.state.isEditing_step (.toggle, r.capabilities.save)

theorem isEditing_command {c : Command} (h : (r.command c).row.isEditing = true) :
    r.isEditing = true ∨ r.capabilities.save = true := by
  cases c with
  | toggleEdit =>
    have hxor : (r.isEditing ^^ r.capabilities.save) = true :=
      r.isEditing_toggleEdit_eq.symm.trans h
    revert hxor
    cases r.isEditing <;> cases r.capabilities.save <;> simp
  | apply | dismiss =>
    simp only [command] at h
    split at h <;> exact .inl h
  | activateReference =>
    simp only [command, row_followReference] at h
    exact .inl h
  | nextReference | previousReference | moveUp | moveDown | quit => exact .inl h

theorem isEditing_key {k : KeyEvent} (h : (r.key k).row.isEditing = true) :
    r.isEditing = true ∨ r.capabilities.save = true := by
  rcases r.key_cases k with hk | ⟨c, hk⟩ | ⟨he, -⟩
  · rw [hk] at h
    exact .inl h
  · rw [hk] at h
    exact isEditing_command h
  · exact .inl he

theorem isEditing_setProposal (r : Row ε ν) (p : Proposal) (source : ViewerSource ν) :
    (r.setProposal p source).1.isEditing = r.isEditing := by
  refine (shown_loadViewer _ source).isEditing.trans ?_
  refine (r.state.isEditing_step (.supply p.payload, r.capabilities.save)).trans ?_
  exact Bool.xor_false _

def told (out : Row ε ν × ViewerSource ν × List Notice) : Outcome ε ν := ⟨out.1, none, out.2.2⟩

variable [Viewer ν]

def perform (r : Row ε ν) : Operation ν → Outcome ε ν
  | .key k => r.key k
  | .command c => r.command c
  | .propose p source => told (r.setProposal p source)
  | .features features mapping => (r.setFeatures features mapping).rest
  | .mapping mapping => (r.setMapping mapping).rest
  | .loading loading => rest { r with loading }
  | .capabilities capabilities => rest { r with capabilities }
  | .place position numbered bordered focused =>
    rest { r with position, numbered, bordered, focused }
  | .dress palette bindings => rest { r with palette, bindings }
  | .viewer source => told (r.setViewer source)
  | .update source => told (r.update source)
  | .draw source a c => ⟨(r.draw source a c).row, none, (r.draw source a c).notices⟩

def performAll (r : Row ε ν) (os : List (Operation ν)) : Row ε ν :=
  os.foldl (fun r o ↦ (r.perform o).row) r

theorem performAll_concat (r : Row ε ν) (os : List (Operation ν)) (o : Operation ν) :
    r.performAll (os ++ [o]) = ((r.performAll os).perform o).row := by
  rw [performAll, List.foldl_append]
  rfl

theorem asks_perform {o : Operation ν} (h : (r.perform o).event = some e) : Asks r e := by
  cases o with
  | key k => exact asks_key h
  | command c => exact asks_command h
  | _ => exact asks_of_none h

theorem capabilities_perform {o : Operation ν} (ho : ∀ c, o ≠ .capabilities c) :
    (r.perform o).row.capabilities = r.capabilities := by
  cases o with
  | key k => exact (r.worked_key k).capabilities
  | command c => exact (r.worked_command c).capabilities
  | propose p source => exact (shown_loadViewer _ source).capabilities
  | capabilities c => exact absurd rfl (ho c)
  | viewer source => exact (r.shown_setViewer source).capabilities
  | update source => exact (r.shown_loadViewer source).capabilities
  | draw source a c => exact (r.shown_draw source a c).capabilities
  | features | mapping | loading | place | dress => rfl

theorem isEditing_perform {o : Operation ν} (h : (r.perform o).row.isEditing = true) :
    r.isEditing = true ∨ r.capabilities.save = true := by
  cases o with
  | key k => exact isEditing_key h
  | command c => exact isEditing_command h
  | propose p source => exact .inl ((r.isEditing_setProposal p source).symm.trans h)
  | viewer source => exact .inl ((r.shown_setViewer source).isEditing.symm.trans h)
  | update source => exact .inl ((r.shown_loadViewer source).isEditing.symm.trans h)
  | draw source a c => exact .inl ((r.shown_draw source a c).isEditing.symm.trans h)
  | features | mapping | loading | capabilities | place | dress => exact .inl h

theorem Headed.perform (h : r.Headed) (o : Operation ν) : (r.perform o).row.Headed := by
  cases o with
  | key k => exact h.of_card (r.worked_key k).card
  | command c => exact h.of_card (r.worked_command c).card
  | propose p source =>
    exact Headed.of_card (r := refreshHeader _) rfl (shown_loadViewer _ source).card
  | viewer source => exact h.of_card (r.shown_setViewer source).card
  | update source => exact h.of_card (r.shown_loadViewer source).card
  | draw source a c => exact h.of_card (r.shown_draw source a c).card
  | features | mapping => exact rfl
  | loading | capabilities | place | dress => exact h

theorem headed_performAll (h : r.Headed) (os : List (Operation ν)) : (r.performAll os).Headed := by
  induction os generalizing r with
  | nil => exact h
  | cons o os ih => exact ih (h.perform o)

end SuggestionReview.Row
