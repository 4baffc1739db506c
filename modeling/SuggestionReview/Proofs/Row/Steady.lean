import SuggestionReview.Proofs.Row.Viewing

namespace SuggestionReview

/-- Whether a place that asks for a view has it at once, or the reason why there is none. -/
def ViewerSource.Prompt {ν : Type} (source : ViewerSource ν) : Prop :=
  (ViewerSlot.idle.load source).1.stage = 2

variable {ν : Type}

/-- A load is answered at once where its number already has an answer. -/
theorem ViewerSource.prompt_iff {source : ViewerSource ν} :
    source.Prompt ↔ (source.answer source.calls).isSome := by
  have hload : (ViewerSlot.idle.load source).1 = ((ViewerSlot.loading source.calls).poll
      { source with calls := source.calls + 1 }).1 := rfl
  rw [Prompt, hload, ViewerSlot.poll, ViewerSlot.arrived]
  rcases source.answer source.calls with - | reason | view
  · exact iff_of_false (Nat.ne_of_lt (Nat.lt_succ_self 1)) Bool.false_ne_true
  · exact iff_of_true rfl rfl
  · exact iff_of_true rfl rfl

theorem ViewerSource.prompt_always (result : LoadResult ν) : (always result).Prompt :=
  prompt_iff.2 rfl

namespace ViewerSlot

variable {slot : ViewerSlot ν} {source : ViewerSource ν}

theorem load_of_settled (h : slot.stage = 2) : (slot.load source).1 = slot := by
  cases slot with
  | idle | loading => simp [stage] at h
  | ready | failed => rfl

theorem stage_load (h : slot.stage ≠ 1) (hsource : source.Prompt) :
    (slot.load source).1.stage = 2 := by
  cases slot with
  | idle => exact hsource
  | loading => exact absurd rfl h
  | ready | failed => rfl

theorem stage_viewerSteps (h : slot.stage ≠ 1) (hsource : source.Prompt) (content : RowContent) :
    (slot.run (content.viewerSteps slot source)).stage ≠ 1 ∧
      ∀ text, content = .code text →
        (slot.run (content.viewerSteps slot source)).stage = 2 := by
  cases content with
  | code text =>
    have hsettled : (slot.run [.request source, .poll (slot.request source).2.1]).stage = 2 :=
      stage_load h hsource
    exact ⟨fun hloading ↦ absurd (hsettled.symm.trans hloading) (by decide), fun _ _ ↦ hsettled⟩
  | editor | message | options | empty => exact ⟨h, fun text hcode ↦ by cases hcode⟩

end ViewerSlot

def PayloadEditor.KeepsHeight (ε : Type) [PayloadEditor ε] : Prop :=
  ∀ (e : ε) (p : Palette) (a : Area) (c : Canvas),
    PayloadEditor.height (PayloadEditor.draw e p a c).1 = PayloadEditor.height e

theorem DocumentEditor.keepsHeight : PayloadEditor.KeepsHeight DocumentEditor := by
  -- only the part of the text that is shown moves
  intro e p a c
  rfl

namespace Row

def Operation.Prompt : Operation ν → Prop
  | propose _ source | viewer source | update source | draw source _ _ => source.Prompt
  | _ => True

/-- Whether an operation loads the view of the code that it leaves as the content. -/
def Operation.loads : Operation ν → Bool
  | propose _ _ | viewer _ | update _ => true
  | _ => false

/-- A row to begin with: a new one, or any row that has just been told where views come from. -/
inductive Fresh {ε : Type} : Row ε ν → Prop
  | new (p : Proposal) (features : List Feature) (mapping : FeatureMapping) (position : Nat)
      (palette : Palette) (editor : ε) (source : ViewerSource ν) (h : source.Prompt) :
      Fresh (new p features mapping position palette editor source)
  | viewer (r : Row ε ν) (source : ViewerSource ν) (h : source.Prompt) :
      Fresh (r.setViewer source).1

variable {ε : Type} {r r' start : Row ε ν} {source : ViewerSource ν}

def Calm (r : Row ε ν) : Prop := r.viewer.stage ≠ 1

def Served (r : Row ε ν) : Prop := ∀ text, r.content = .code text → r.viewer.stage = 2

theorem Shown.bordered (h : Shown r r') : r'.bordered = r.bordered := by
  cases h
  rfl

theorem calm_of_idle (h : r.viewer = .idle) : r.Calm := by
  rw [Calm, h]
  exact Nat.zero_ne_one

theorem Worked.calm (hworked : Worked r r') (h : r.Calm) : r'.Calm := by
  rw [Calm, hworked.viewer]
  exact h

theorem Calm.served (h : r.Calm) (hsource : source.Prompt)
    (hviewer : r'.viewer = r.viewer.run (r'.content.viewerSteps r.viewer source)) :
    r'.Calm ∧ r'.Served := by
  rw [Calm, Served, hviewer]
  exact ViewerSlot.stage_viewerSteps h hsource r'.content

theorem served_loadViewer (hidle : r.viewer = .idle) (hsource : source.Prompt) :
    (r.loadViewer source).1.Calm ∧ (r.loadViewer source).1.Served :=
  (calm_of_idle hidle).served hsource (r.viewer_loadViewer source)

theorem Fresh.served (h : Fresh r) : r.Calm ∧ r.Served := by
  cases h with
  | new p features mapping position palette editor source hsource =>
    exact served_loadViewer rfl hsource
  | viewer r source hsource => exact served_loadViewer rfl hsource

variable [PayloadEditor ε] [Viewer ν] {o : Operation ν} {os : List (Operation ν)}

theorem Calm.perform (h : r.Calm) (ho : o.Prompt) : (r.perform o).row.Calm := by
  cases o with
  | key k => exact (r.worked_key k).calm h
  | command c => exact (r.worked_command c).calm h
  | propose p source => exact (h.served ho (viewer_perform r rfl)).1
  | viewer source => exact (served_loadViewer rfl ho).1
  | update source => exact (h.served ho (r.viewer_loadViewer source)).1
  | draw source a c => exact (h.served ho (r.viewer_draw source a c)).1
  | features | mapping | loading | capabilities | place | dress => exact h

theorem Calm.served_perform (h : r.Calm) (ho : o.Prompt) (hloads : o.loads = true) :
    (r.perform o).row.Served := by
  cases o with
  | propose p source => exact (h.served ho (viewer_perform r rfl)).2
  | viewer source => exact (served_loadViewer rfl ho).2
  | update source => exact (h.served ho (r.viewer_loadViewer source)).2
  | key | command | draw | features | mapping | loading | capabilities | place | dress =>
    exact absurd hloads Bool.false_ne_true

theorem Calm.performAll (h : r.Calm) (hos : ∀ o ∈ os, o.Prompt) : (r.performAll os).Calm := by
  induction os generalizing r with
  | nil => exact h
  | cons o os ih =>
    obtain ⟨ho, hos⟩ := List.forall_mem_cons.1 hos
    exact ih (h.perform ho) hos

theorem served_performAll (hstart : Fresh start) (hos : ∀ o ∈ os, o.Prompt)
    (hlast : ∀ o ∈ os.getLast?, o.loads = true) : (start.performAll os).Served := by
  rcases os.eq_nil_or_concat with rfl | ⟨before, o, rfl⟩
  · exact hstart.served.2
  · -- the last operation loads, and what was done before it left no view on its way
    rw [List.concat_eq_append] at *
    have hcalm : (start.performAll before).Calm :=
      hstart.served.1.performAll fun o ho ↦ hos o (List.mem_append_left _ ho)
    rw [performAll_concat]
    exact hcalm.served_perform (hos o (by simp)) (hlast o (by simp))

theorem Served.height?_draw (h : r.Served) (hkeeps : PayloadEditor.KeepsHeight ε)
    (source : ViewerSource ν) (a : Area) (c : Canvas) (width : Nat) :
    (r.draw source a c).row.height? width = r.height? width := by
  have hshown := r.shown_draw source a c
  rw [height?, height?, contentHeight?, contentHeight?, hshown.content, hshown.bordered]
  cases hcontent : r.content with
  | editor draft =>
    simp only [draw, drawContent, hcontent]
    rw [hkeeps]
  | code text =>
    simp only [draw, drawContent, hcontent]
    rw [ViewerSlot.load_of_settled (h text hcontent)]
  | message | options | empty => rfl

/-- After whatever was done to a row, drawing leaves its height at every width, if all views were
there at once and the row was loaded last. Its editor must have the same height once it is drawn, as the
editor of documents has. -/
theorem height?_draw_performAll : PayloadEditor.KeepsHeight DocumentEditor ∧
    ∀ (ε ν : Type) [PayloadEditor ε] [Viewer ν], PayloadEditor.KeepsHeight ε →
      ∀ (start : Row ε ν) (os : List (Operation ν)), Fresh start → (∀ o ∈ os, o.Prompt) →
        (∀ o ∈ os.getLast?, o.loads = true) →
        ∀ (source : ViewerSource ν) (a : Area) (c : Canvas) (width : Nat),
          ((start.performAll os).draw source a c).row.height? width =
            (start.performAll os).height? width := by
  refine ⟨DocumentEditor.keepsHeight, ?_⟩
  intro ε ν _ _ hkeeps start os hstart hos hlast source a c width
  have hserved := served_performAll hstart hos hlast
  exact hserved.height?_draw hkeeps source a c width

def silent : Row DocumentEditor :=
  new ⟨⟨"Sum", none, ⟨.sum, .row, [], none, none, []⟩⟩, 0⟩ [] .empty 0 .dark .empty (.broken "gone")

def givenCode : List Operation :=
  [.capabilities .all, .command .toggleEdit, .command .toggleEdit,
    .propose ⟨⟨"Reformat", none, ⟨.reformat, .column, ["income"], some "a = 1\nb = 2\nc = 3", none,
      []⟩⟩, 1⟩ (.builtin 0)]

/-- It asks for the header and the three lines, before it is drawn and after. -/
theorem height?_draw_performAll_givenCode :
    silent.height? 60 = some 1 ∧ (silent.performAll givenCode).height? 60 = some 4 ∧
      ((silent.performAll givenCode).draw .waiting ⟨0, 0, 60, 4⟩ (.blank 60 4)).row.height? 60 =
        some 4 := by
  have hstart : Fresh silent := .new _ _ _ _ _ _ _ (ViewerSource.prompt_always _)
  have hgiven : ∀ o ∈ givenCode, o.Prompt := by
    simp only [givenCode, List.forall_mem_cons, Operation.Prompt, true_and]
    exact ⟨ViewerSource.prompt_always _, List.forall_mem_nil _⟩
  have hlast : ∀ o ∈ givenCode.getLast?, o.loads = true := fun o ho ↦ by
    obtain rfl := Option.some.inj ho
    rfl
  have hheight : (silent.performAll givenCode).height? 60 = some 4 := by decide +kernel
  obtain ⟨hkeeps, hdraw⟩ := height?_draw_performAll
  refine ⟨by decide +kernel, hheight, ?_⟩
  have hsame := hdraw DocumentEditor CodeView hkeeps silent givenCode hstart hgiven hlast
  exact (hsame .waiting ⟨0, 0, 60, 4⟩ (.blank 60 4) 60).trans hheight

end Row

end SuggestionReview
