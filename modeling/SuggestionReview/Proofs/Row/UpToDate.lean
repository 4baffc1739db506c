import SuggestionReview.Proofs.Editor
import SuggestionReview.Proofs.Row.Columns
import SuggestionReview.Proofs.Row.Work

namespace SuggestionReview

theorem References.exists_activate {r : References} {nth : Nat} (h : nth < r.actionableCount) :
    ∃ piece column, r.actionable nth = some piece ∧ piece.column? = some column := by
  have hpiece : r.actionable nth = some r.actionables[nth] := List.getElem?_eq_getElem h
  have hmem : r.actionables[nth] ∈ r.pieces.filter (·.isActionable) := List.getElem_mem h
  have hactionable : r.actionables[nth].isActionable = true := (List.mem_filter.1 hmem).2
  obtain ⟨column, hcolumn⟩ := Option.isSome_iff_exists.1 hactionable
  exact ⟨_, column, hpiece, hcolumn⟩

namespace Row

variable {ε ν : Type} {r r' start : Row ε ν}

def InRange (r : Row ε ν) : Prop :=
  ∀ nth, r.reference = some nth → nth < r.header.references.actionableCount

theorem Shown.inRange (hs : Shown r r') (h : r.InRange) : r'.InRange := by
  cases hs
  exact h

theorem Shown.state (hs : Shown r r') : r'.state = r.state := by
  cases hs
  rfl

theorem inRange_refreshHeader (r : Row ε ν) : r.refreshHeader.InRange := by
  intro nth hnth
  have hlt := (Option.filter_eq_some_iff.1 hnth).2
  exact of_decide_eq_true hlt

theorem inRange_moveReference (r : Row ε ν) (forward : Bool) :
    (r.moveReference forward).InRange := by
  intro nth hnth
  have hheader : (r.moveReference forward).header = r.header := rfl
  rw [hheader]
  simp only [moveReference] at hnth
  split at hnth
  · exact absurd hnth nofun
  · next hcount =>
    have hpos : 0 < r.header.references.actionableCount := Nat.pos_of_ne_zero hcount
    split at hnth <;> obtain rfl := Option.some.inj hnth
    · exact hpos
    · omega
    · exact Nat.mod_lt _ hpos
    · exact Nat.mod_lt _ hpos

theorem IsNew.state {r : Row ε ν} (h : r.IsNew) : r.state = .mount r.proposal.payload := by
  obtain ⟨p, features, mapping, position, palette, editor, source, rfl⟩ := h
  have hshown := (mount p features mapping position palette editor).shown_loadViewer source
  have hpayload := congrArg (·.proposal.payload) hshown.card
  exact hshown.state.trans (congrArg EditState.mount hpayload).symm

theorem IsNew.inRange {r : Row ε ν} (h : r.IsNew) : r.InRange := by
  obtain ⟨p, features, mapping, position, palette, editor, source, rfl⟩ := h
  refine ((mount p features mapping position palette editor).shown_loadViewer source).inRange ?_
  exact fun nth hnth ↦ absurd hnth nofun

theorem InRange.exists_navigate (h : r.InRange) {nth : Nat} (hnth : r.reference = some nth) :
    ∃ column, r.header.references.activate nth = some column ∧
      r.followReference.event = some (.navigate column) := by
  obtain ⟨piece, column, hpiece, hcolumn⟩ := References.exists_activate (h nth hnth)
  have hchosen : r.chosen = some piece := by
    rw [chosen, hnth]
    exact hpiece
  refine ⟨column, ?_, ?_⟩
  · rw [References.activate, hpiece]
    exact hcolumn
  · simp only [followReference, hchosen, hcolumn]

/-- Whether the values that a row keeps go with what it was given last. -/
structure UpToDate (r : Row ε ν) : Prop where
  committed : r.state.committed.identity = r.proposal.identity
  indexed : r.Indexed
  headed : r.Headed
  inRange : r.InRange

theorem IsNew.upToDate {r : Row ε ν} (h : r.IsNew) : r.UpToDate := by
  refine ⟨?_, h.indexed, h.headed, h.inRange⟩
  rw [h.state]
  rfl

variable [PayloadEditor ε] {o : Operation ν} {os : List (Operation ν)}

theorem InRange.command (h : r.InRange) (c : Command) : (r.command c).row.InRange := by
  cases c with
  | apply | dismiss =>
    simp only [Row.command]
    split <;> exact h
  | nextReference => exact r.inRange_moveReference true
  | previousReference => exact r.inRange_moveReference false
  | activateReference =>
    simp only [Row.command, row_followReference]
    exact h
  | toggleEdit | moveUp | moveDown | quit => exact h

theorem InRange.editorKey (h : r.InRange) (k : KeyEvent) : (r.editorKey k).row.InRange := by
  unfold Row.editorKey
  rcases PayloadEditor.key r.editor k with ⟨editor, - | p | q⟩ <;> exact h

theorem InRange.key (h : r.InRange) (k : KeyEvent) : (r.key k).row.InRange := by
  rcases r.key_cases k with hk | ⟨c, hk⟩ | ⟨-, hk⟩
  · rw [hk]
    exact h
  · rw [hk]
    exact h.command c
  · rw [hk]
    exact h.editorKey k

theorem InRange.perform [Viewer ν] (h : r.InRange) (o : Operation ν) :
    (r.perform o).row.InRange := by
  cases o with
  | key k => exact h.key k
  | command c => exact h.command c
  | propose p source => exact (shown_loadViewer _ source).inRange (inRange_refreshHeader _)
  | features | mapping => exact inRange_refreshHeader _
  | viewer source => exact (r.shown_setViewer source).inRange h
  | update source => exact (r.shown_loadViewer source).inRange h
  | draw source a c => exact (r.shown_draw source a c).inRange h
  | loading | capabilities | place | dress => exact h

def Operation.handed? : Operation ν → Option Committed
  | propose p _ => some p.payload
  | _ => none

/-- Every payload that was handed over to a row, the one that it started with included. -/
def handed (start : Row ε ν) (os : List (Operation ν)) : List Committed :=
  start.proposal.payload :: os.filterMap (·.handed?)

theorem committed_command (r : Row ε ν) (c : Command) :
    (r.command c).row.state.committed = r.state.committed := by
  cases c with
  | toggleEdit => exact r.state.committed_step (.toggle, r.capabilities.save)
  | apply | dismiss =>
    simp only [command]
    split <;> rfl
  | activateReference => simp only [command, row_followReference]
  | nextReference | previousReference | moveUp | moveDown | quit => rfl

theorem committed_editorKey (r : Row ε ν) (k : KeyEvent) :
    (r.editorKey k).row.state.committed = r.state.committed := by
  unfold editorKey
  rcases PayloadEditor.key r.editor k with ⟨editor, - | p | q⟩
  · rfl
  · exact r.state.committed_step (.draft p, r.capabilities.save)
  · exact r.state.committed_step (.save q, r.capabilities.save)

theorem committed_key (r : Row ε ν) (k : KeyEvent) :
    (r.key k).row.state.committed = r.state.committed := by
  rcases r.key_cases k with hk | ⟨c, hk⟩ | ⟨-, hk⟩
  · rw [hk]
    rfl
  · rw [hk, committed_command]
  · rw [hk, committed_editorKey]

theorem committed_perform [Viewer ν] (r : Row ε ν) (o : Operation ν) :
    (r.perform o).row.state.committed =
    o.handed?.elim r.state.committed fun p ↦
      if p.identity = r.state.committed.identity then r.state.committed else p := by
  cases o with
  | key k => exact r.committed_key k
  | command c => exact r.committed_command c
  | propose p source =>
    refine (congrArg EditState.committed (shown_loadViewer _ source).state).trans ?_
    exact r.state.committed_step (.supply p.payload, r.capabilities.save)
  | viewer source => exact congrArg EditState.committed (r.shown_setViewer source).state
  | update source => exact congrArg EditState.committed (r.shown_loadViewer source).state
  | draw source a c => exact congrArg EditState.committed (r.shown_draw source a c).state
  | features | mapping | loading | capabilities | place | dress => rfl

theorem proposal_perform [Viewer ν] (r : Row ε ν) (o : Operation ν) :
    (r.perform o).row.proposal.payload = o.handed?.getD r.proposal.payload := by
  cases o with
  | key k => exact congrArg (·.proposal.payload) (r.worked_key k).card
  | command c => exact congrArg (·.proposal.payload) (r.worked_command c).card
  | propose p source => exact congrArg (·.proposal.payload) (shown_loadViewer _ source).card
  | viewer source => exact congrArg (·.proposal.payload) (r.shown_setViewer source).card
  | update source => exact congrArg (·.proposal.payload) (r.shown_loadViewer source).card
  | draw source a c => exact congrArg (·.proposal.payload) (r.shown_draw source a c).card
  | features | mapping | loading | capabilities | place | dress => rfl

theorem UpToDate.perform [Viewer ν] (h : r.UpToDate) (o : Operation ν) :
    (r.perform o).row.UpToDate := by
  refine ⟨?_, h.indexed.perform o, h.headed.perform o, h.inRange.perform o⟩
  have hproposal : (r.perform o).row.proposal.identity =
      (o.handed?.getD r.proposal.payload).identity :=
    congrArg Committed.identity (r.proposal_perform o)
  rw [committed_perform, hproposal]
  cases o.handed? with
  | none => exact h.committed
  | some p =>
    rw [Option.elim_some, Option.getD_some]
    split
    · next hp => exact hp.symm
    · rfl

theorem upToDate_performAll [Viewer ν] (h : start.UpToDate) (os : List (Operation ν)) :
    (start.performAll os).UpToDate := by
  induction os generalizing start with
  | nil => exact h
  | cons o os ih => exact ih (h.perform o)

theorem mem_handed_performAll [Viewer ν] (h : start.state.committed = start.proposal.payload)
    (os : List (Operation ν)) :
    (start.performAll os).state.committed ∈ start.handed os ∧
      (start.performAll os).proposal.payload ∈ start.handed os := by
  induction os using List.reverseRecOn with
  | nil =>
    have hstart : start.proposal.payload ∈ start.handed [] := List.mem_cons_self
    exact ⟨h ▸ hstart, hstart⟩
  | append_singleton os o ih =>
    have hhanded : start.handed (os ++ [o]) = start.handed os ++ o.handed?.toList := by
      rw [handed, handed, List.filterMap_append, List.cons_append]
      cases ho : o.handed? <;> simp [ho]
    rw [performAll_concat, committed_perform, proposal_perform, hhanded]
    cases o.handed? with
    | none => exact ⟨List.mem_append_left _ ih.1, List.mem_append_left _ ih.2⟩
    | some p =>
      have hp : p ∈ start.handed os ++ [p] := List.mem_append_right _ (List.mem_singleton_self p)
      refine ⟨?_, hp⟩
      rw [Option.elim_some]
      split
      · exact List.mem_append_left _ ih.1
      · exact hp

def Seeded (r : Row DocumentEditor ν) : Prop := r.editor.text = r.state.draft.toValue.pretty

/-- Nothing but a toggle starts editing. -/
theorem row_perform_of_starts [Viewer ν] {r : Row DocumentEditor ν} {o : Operation ν}
    (hbefore : r.isEditing = false) (hafter : (r.perform o).row.isEditing = true) :
    (r.perform o).row = r.toggleEdit.row := by
  have hunchanged : (r.perform o).row.isEditing ≠ r.isEditing := by
    rw [hbefore, hafter]
    exact Bool.false_ne_true.symm
  cases o with
  | key k =>
    have hkeyed : Keyed r k (r.perform (.key k)) := r.keyed_key k
    generalize r.perform (.key k) = out at hkeyed hunchanged ⊢
    cases hkeyed with
    | idle hidle => exact absurd hidle.sameWork.isEditing hunchanged
    | toggled => rfl
    | edited hediting => exact absurd (hbefore.symm.trans hediting) Bool.false_ne_true
  | command c =>
    by_cases hc : c = .toggleEdit
    · subst hc
      rfl
    · exact absurd (idle_command hc).sameWork.isEditing hunchanged
  | propose p source => exact absurd (r.isEditing_setProposal p source) hunchanged
  | viewer source => exact absurd (r.shown_setViewer source).isEditing hunchanged
  | update source => exact absurd (r.shown_loadViewer source).isEditing hunchanged
  | draw source a c => exact absurd (r.shown_draw source a c).isEditing hunchanged
  | features | mapping | loading | capabilities | place | dress => exact absurd rfl hunchanged

theorem seeded_toggleEdit {r : Row DocumentEditor ν} (hbefore : r.isEditing = false)
    (hafter : r.toggleEdit.row.isEditing = true) : r.toggleEdit.row.Seeded := by
  have hsave : r.capabilities.save = true := by
    rw [isEditing_toggleEdit_eq, hbefore, Bool.false_xor] at hafter
    exact hafter
  rw [Seeded, editor_toggleEdit hsave hbefore, draft_toggleEdit]
  exact DocumentEditor.text_seed _

theorem seeded_setProposal {r : Row DocumentEditor ν} {p : Proposal}
    (hp : p.identity ≠ r.state.committed.identity) (hediting : r.isEditing = true)
    (source : ViewerSource ν) : (r.setProposal p source).1.Seeded := by
  have hpayload : p.payload.identity ≠ r.state.committed.identity := hp
  have hdraft : (r.setProposal p source).1.state.draft = p.suggestion.payload := by
    rw [state_setProposal, EditState.step, if_neg hpayload]
    rfl
  rw [Seeded, editor_setProposal_of_ne hp hediting, hdraft]
  exact DocumentEditor.text_seed _

/-- Whatever is done to a new row, what it keeps goes with what it has: the payload under the draft is
that of the suggestion, by its identity and where no two payloads have one identity also by itself;
the index is that of the columns and the header that of the suggestion; and a chosen reference can be
followed. Where the editor is one of documents, it starts with the draft when editing starts, and
starts over with it when another payload is handed over. -/
theorem kept_performAll :
    (∀ (ε ν : Type) [PayloadEditor ε] [Viewer ν] (start : Row ε ν) (os : List (Operation ν)), start.IsNew →
      (start.performAll os).UpToDate ∧
      ((∀ p ∈ start.handed os, ∀ q ∈ start.handed os, p.identity = q.identity → p = q) →
        (start.performAll os).state.committed = (start.performAll os).proposal.payload) ∧
      ∀ nth, (start.performAll os).reference = some nth →
        ∃ column, (start.performAll os).header.references.activate nth = some column ∧
          ((start.performAll os).perform (.command .activateReference)).event =
            some (.navigate column)) ∧
    ∀ (ν : Type) [Viewer ν] (start : Row DocumentEditor ν) (os : List (Operation ν)), start.IsNew →
      (∀ o, (start.performAll os).isEditing = false →
        ((start.performAll os).perform o).row.isEditing = true →
        ((start.performAll os).perform o).row.Seeded) ∧
      ∀ p source, (start.performAll os).isEditing = true →
        p.identity ≠ (start.performAll os).proposal.identity →
        ((start.performAll os).perform (.propose p source)).row.Seeded := by
  constructor
  · intro ε ν _ _ start os hstart
    have hkept := upToDate_performAll hstart.upToDate os
    refine ⟨hkept, fun hobjects ↦ ?_, fun nth hnth ↦ hkept.inRange.exists_navigate hnth⟩
    have hmount : start.state.committed = start.proposal.payload := by
      rw [hstart.state]
      rfl
    obtain ⟨hcommitted, hproposal⟩ := mem_handed_performAll hmount os
    exact hobjects _ hcommitted _ hproposal hkept.committed
  · intro ν _ start os hstart
    have hkept := upToDate_performAll hstart.upToDate os
    constructor
    · intro o hbefore hafter
      have hrow := row_perform_of_starts hbefore hafter
      rw [hrow] at hafter ⊢
      exact seeded_toggleEdit hbefore hafter
    · intro p source hediting hp
      exact seeded_setProposal (hkept.committed ▸ hp) hediting source

def summed : Proposal := ⟨⟨"Sum", none, ⟨.sum, .row, ["age"], none, none, []⟩⟩, 1⟩

theorem kept_performAll_average :
    ((average.performAll [.command .nextReference]).perform (.command .activateReference)).event =
      some (.navigate 0) ∧
    (average.performAll [.propose summed .waiting]).state.committed = summed.payload ∧
    ((average.performAll [.capabilities .all]).perform (.key (.press (.char 'e') .none))).row.Seeded ∧
    ((average.performAll [.capabilities .all, .command .toggleEdit]).perform
      (.propose summed .waiting)).row.Seeded := by
  obtain ⟨hany, hdocuments⟩ := kept_performAll
  obtain ⟨-, -, hfollow⟩ := hany _ _ average [.command .nextReference] isNew_average
  obtain ⟨-, hpayload, -⟩ := hany _ _ average [.propose summed .waiting] isNew_average
  obtain ⟨hstarts, -⟩ := hdocuments _ average [.capabilities .all] isNew_average
  obtain ⟨-, hsupplied⟩ :=
    hdocuments _ average [.capabilities .all, .command .toggleEdit] isNew_average
  obtain ⟨column, hcolumn, hevent⟩ := hfollow 0 rfl
  obtain rfl : 0 = column := Option.some.inj hcolumn
  have hhanded : average.handed [.propose summed .waiting] =
      [average.proposal.payload, summed.payload] := rfl
  refine ⟨hevent, hpayload ?_, hstarts _ rfl (by decide +kernel), hsupplied _ _ rfl (by decide)⟩
  rw [hhanded]
  intro p hp q hq hidentity
  simp only [List.mem_cons, List.not_mem_nil, or_false] at hp hq
  rcases hp with rfl | rfl <;> rcases hq with rfl | rfl
  · rfl
  · exact absurd hidentity (by decide)
  · exact absurd hidentity (by decide)
  · rfl

end Row

end SuggestionReview
