import Mathlib.Data.List.Forall2
import SuggestionReview.Proofs.Row.Look
import SuggestionReview.Proofs.Row.Viewing

namespace SuggestionReview.Row

/-- Whether two operations are one operation that finds its code view in different places. -/
inductive Operation.Alike {ν : Type} : Operation ν → Operation ν → Prop
  | same (o : Operation ν) : Alike o o
  | propose (p : Proposal) (source source' : ViewerSource ν) :
    Alike (.propose p source) (.propose p source')
  | viewer (source source' : ViewerSource ν) : Alike (.viewer source) (.viewer source')
  | update (source source' : ViewerSource ν) : Alike (.update source) (.update source')
  | draw (source source' : ViewerSource ν) (a : Area) (c : Canvas) :
    Alike (.draw source a c) (.draw source' a c)

variable {ε ν : Type} {r r' r'' : Row ε ν}

inductive Alike (r : Row ε ν) : Row ε ν → Prop
  | mk (viewer : ViewerSlot ν) : Alike r { r with viewer }

theorem Alike.refl (r : Row ε ν) : Alike r r := .mk r.viewer

theorem Alike.symm (h : Alike r r') : Alike r' r := by
  cases h
  exact .mk r.viewer

theorem Alike.trans (h : Alike r r') (h' : Alike r' r'') : Alike r r'' := by
  cases h
  cases h'
  exact .mk _

/-- Whether two rows are at the same point of the same work, whatever they draw. -/
structure SameConduct (r r' : Row ε ν) : Prop where
  mode : r'.state.mode = r.state.mode
  draft : r'.state.draft = r.state.draft
  committed : r'.state.committed = r.state.committed
  reference : r'.reference = r.reference
  header : r'.header = r.header
  editor : r'.editor = r.editor
  supported : r'.supported = r.supported
  hints : r'.hints = r.hints

theorem Alike.sameConduct (h : Alike r r') : SameConduct r r' := by
  cases h
  exact ⟨rfl, rfl, rfl, rfl, rfl, rfl, rfl, rfl⟩

theorem alike_loadViewer (r : Row ε ν) (source : ViewerSource ν) :
    Alike r (r.loadViewer source).1 := by
  unfold loadViewer
  split
  · exact .mk _
  · exact .refl r

theorem Alike.loadViewer (h : Alike r r') (source source' : ViewerSource ν) :
    Alike (r.loadViewer source).1 (r'.loadViewer source').1 := by
  have hleft : Alike (r.loadViewer source).1 r := (r.alike_loadViewer source).symm
  exact (hleft.trans h).trans (r'.alike_loadViewer source')

structure SameOutcome (out out' : Outcome ε ν) : Prop where
  event : out'.event = out.event
  row : Alike out.row out'.row

theorem SameOutcome.rest (h : Alike r r') : SameOutcome r.rest r'.rest := ⟨rfl, h⟩

theorem SameOutcome.told
    {out out' : Row ε ν × ViewerSource ν × List Notice} (h : Alike out.1 out'.1) :
    SameOutcome (told out) (told out') := ⟨rfl, h⟩

theorem sameOutcome_followReference (h : Alike r r') :
    SameOutcome r.followReference r'.followReference := by
  obtain ⟨viewer⟩ := h
  have hchosen : chosen { r with viewer } = r.chosen := rfl
  simp only [followReference, hchosen]
  split
  · exact .rest (.mk viewer)
  · split
    · exact ⟨rfl, .mk viewer⟩
    · exact .rest (.mk viewer)

variable [PayloadEditor ε] {o o' : Operation ν} {os os' : List (Operation ν)}

theorem sameOutcome_command (h : Alike r r') (c : Command) :
    SameOutcome (r.command c) (r'.command c) := by
  cases c with
  | apply =>
    obtain ⟨viewer⟩ := h
    have hcontrol : applyControl { r with viewer } = r.applyControl := rfl
    simp only [command, hcontrol]
    split
    · exact ⟨rfl, .mk viewer⟩
    · exact .rest (.mk viewer)
  | dismiss =>
    obtain ⟨viewer⟩ := h
    have hcontrol : dismissControl { r with viewer } = r.dismissControl := rfl
    simp only [command, hcontrol]
    split
    · exact ⟨rfl, .mk viewer⟩
    · exact .rest (.mk viewer)
  | activateReference => exact sameOutcome_followReference h
  | toggleEdit | nextReference | previousReference | moveUp | moveDown | quit =>
    obtain ⟨viewer⟩ := h
    exact ⟨rfl, .mk viewer⟩

theorem sameOutcome_editorKey (h : Alike r r') (k : KeyEvent) :
    SameOutcome (r.editorKey k) (r'.editorKey k) := by
  obtain ⟨viewer⟩ := h
  unfold editorKey
  rcases PayloadEditor.key r.editor k with ⟨editor, - | p | q⟩
  · exact .rest (.mk viewer)
  · exact ⟨rfl, .mk viewer⟩
  · exact ⟨rfl, .mk viewer⟩

theorem sameOutcome_key (h : Alike r r') (k : KeyEvent) : SameOutcome (r.key k) (r'.key k) := by
  have hediting : r'.isEditing = r.isEditing := by
    cases h
    rfl
  have hbindings : r'.bindings = r.bindings := by
    cases h
    rfl
  have hleaves : r'.leavesEditor k = r.leavesEditor k := by
    cases h
    rfl
  simp only [key, hediting, hbindings, hleaves]
  split
  · exact .rest h
  · split
    · split
      · exact sameOutcome_command h .toggleEdit
      · exact sameOutcome_editorKey h k
    · split
      · next c _ => exact sameOutcome_command h c
      · exact .rest h

theorem alike_setProposal (h : Alike r r') (p : Proposal) (source source' : ViewerSource ν) :
    Alike (r.setProposal p source).1 (r'.setProposal p source').1 := by
  obtain ⟨viewer⟩ := h
  exact Alike.loadViewer (.mk viewer) source source'

variable [Viewer ν]

/-- The editor draws below the header, and the header does not know the code view. -/
theorem alike_draw (h : Alike r r') (source source' : ViewerSource ν) (a : Area) (c : Canvas) :
    Alike (r.draw source a c).row (r'.draw source' a c).row := by
  obtain ⟨viewer⟩ := h
  have hcontent : content { r with viewer } = r.content := rfl
  have hheader : ∀ top d, drawHeader { r with viewer } top d = r.drawHeader top d :=
    r.drawHeader_other r.editor viewer rfl
  simp only [draw, drawContent, hcontent, hheader]
  cases r.content <;> exact .mk _

theorem sameOutcome_perform (h : Alike r r') (ho : o.Alike o') :
    SameOutcome (r.perform o) (r'.perform o') := by
  cases ho with
  | same o =>
    cases o with
    | key k => exact sameOutcome_key h k
    | command c => exact sameOutcome_command h c
    | propose p source => exact .told (alike_setProposal h p source source)
    | viewer source =>
      obtain ⟨viewer⟩ := h
      exact .told (Alike.refl _)
    | update source => exact .told (h.loadViewer source source)
    | draw source a c => exact ⟨rfl, alike_draw h source source a c⟩
    | features | mapping | loading | capabilities | place | dress =>
      obtain ⟨viewer⟩ := h
      exact .rest (.mk viewer)
  | propose p source source' => exact .told (alike_setProposal h p source source')
  | viewer source source' =>
    obtain ⟨viewer⟩ := h
    exact .told (Alike.loadViewer (.refl _) source source')
  | update source source' => exact .told (h.loadViewer source source')
  | draw source source' a c => exact ⟨rfl, alike_draw h source source' a c⟩

theorem alike_performAll (h : Alike r r') (hos : List.Forall₂ Operation.Alike os os') :
    Alike (r.performAll os) (r'.performAll os') := by
  induction hos generalizing r r' with
  | nil => exact h
  | cons ho _ ih => exact ih (sameOutcome_perform h ho).row

/-- Two rows that are built alike, but for where their code views come from, and to which the same is
done: whatever the two places answer, and whenever, the rows keep the same and ask for the same. -/
theorem sameConduct_performAll (built : Row ε ν) (source source' : ViewerSource ν)
    (hos : List.Forall₂ Operation.Alike os os') :
    SameConduct ((built.loadViewer source).1.performAll os)
      ((built.loadViewer source').1.performAll os') ∧
    ∀ o o', o.Alike o' →
      (((built.loadViewer source').1.performAll os').perform o').event =
        (((built.loadViewer source).1.performAll os).perform o).event := by
  have hstart : Alike (built.loadViewer source).1 (built.loadViewer source').1 :=
    (Alike.refl built).loadViewer source source'
  have hrun := alike_performAll hstart hos
  exact ⟨hrun.sameConduct, fun o o' ho ↦ (sameOutcome_perform hrun ho).event⟩

def openedFrom (source : ViewerSource) : List Operation :=
  [.capabilities .all, .update source, .command .toggleEdit, .update source]

/-- The view of one row is waited for and that of the other is not to be had. -/
theorem sameConduct_performAll_broken :
    ((coded.loadViewer .waiting).1.performAll (openedFrom .waiting)).viewer.stage = 1 ∧
    ((coded.loadViewer (.broken "gone")).1.performAll (openedFrom (.broken "gone"))).viewer.stage =
      2 ∧
    ((coded.loadViewer .waiting).1.performAll (openedFrom .waiting)).state.mode = .editing ∧
    ((coded.loadViewer (.broken "gone")).1.performAll (openedFrom (.broken "gone"))).state.mode =
      .editing ∧
    (((coded.loadViewer (.broken "gone")).1.performAll (openedFrom (.broken "gone"))).perform
      (.command .dismiss)).event = some .dismiss := by
  have hopened : List.Forall₂ Operation.Alike (openedFrom .waiting) (openedFrom (.broken "gone")) :=
    .cons (.same _) (.cons (.update _ _) (.cons (.same _) (.cons (.update _ _) .nil)))
  obtain ⟨hsame, hevents⟩ := sameConduct_performAll coded .waiting (.broken "gone") hopened
  have hmode : ((coded.loadViewer .waiting).1.performAll (openedFrom .waiting)).state.mode =
      .editing := rfl
  have hdismiss : (((coded.loadViewer .waiting).1.performAll (openedFrom .waiting)).perform
      (.command .dismiss)).event = some .dismiss := rfl
  exact ⟨rfl, rfl, hmode, hsame.mode.trans hmode, (hevents _ _ (.same _)).trans hdismiss⟩

end SuggestionReview.Row
