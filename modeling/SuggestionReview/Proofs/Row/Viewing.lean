import SuggestionReview.Editor.Document
import SuggestionReview.Proofs.Row.Notices
import SuggestionReview.Proofs.Row.Operation
import SuggestionReview.Proofs.Viewer.Lifecycle

namespace SuggestionReview

def RowContent.viewerSteps (content : RowContent) {ν : Type} (slot : ViewerSlot ν)
    (source : ViewerSource ν) : List (ViewerSlot.Step ν) :=
  match content with
  | .code _ => [.request source, .poll (slot.request source).2.1]
  | _ => []

namespace Row

open ViewerSlot (idle starts looks reports)

variable {ε ν : Type}

def Operation.source? : Operation ν → Option (ViewerSource ν)
  | propose _ source | update source | draw source _ _ => some source
  | _ => none

/-- Whether an operation leaves the code view where it comes from. -/
def Operation.keepsViewer : Operation ν → Bool
  | viewer _ => false
  | _ => true

theorem Shown.content {r r' : Row ε ν} (h : Shown r r') : r'.content = r.content := by
  cases h
  rfl

theorem Worked.viewer {r r' : Row ε ν} (h : Worked r r') : r'.viewer = r.viewer := by
  cases h
  rfl

theorem viewer_loadViewer (r : Row ε ν) (source : ViewerSource ν) :
    (r.loadViewer source).1.viewer =
      r.viewer.run ((r.loadViewer source).1.content.viewerSteps r.viewer source) := by
  rw [(r.shown_loadViewer source).content]
  unfold loadViewer
  cases r.content <;> rfl

theorem count_load (slot : ViewerSlot ν) (source : ViewerSource ν) :
    (slot.load source).2.2.count .viewerLoading =
      slot.count starts [.request source, .poll (slot.request source).2.1] := by
  have hpoll : ∀ (s : ViewerSlot ν) source', (s.poll source').2.2.count .viewerLoading = 0 := by
    intro s source'
    unfold ViewerSlot.poll
    split <;> simp
  have hload : (slot.load source).2.2 = (slot.request source).2.2 ++
      ((slot.request source).1.poll (slot.request source).2.1).2.2 := rfl
  rw [hload, List.count_append, hpoll]
  cases slot with
  | idle | loading | ready | failed => rfl

theorem count_loadViewer (r : Row ε ν) (source : ViewerSource ν) :
    (r.loadViewer source).2.2.count .viewerLoading =
      r.viewer.count starts ((r.loadViewer source).1.content.viewerSteps r.viewer source) := by
  rw [(r.shown_loadViewer source).content]
  unfold loadViewer
  cases r.content with
  | code text => exact count_load r.viewer source
  | editor | message | options | empty => rfl

theorem count_of_about {topic : Topic} {notices : List Notice} (h : About topic notices)
    (htopic : .view ≠ topic) : notices.count .viewerLoading = 0 :=
  List.count_eq_zero.2 (h.not_mem htopic)

variable [PayloadEditor ε] {r start : Row ε ν} {o : Operation ν} {os : List (Operation ν)}

theorem count_command (r : Row ε ν) (c : Command) :
    (r.command c).notices.count .viewerLoading = 0 := by
  by_cases hc : c = .activateReference
  · subst hc
    exact count_of_about r.about_followReference (by decide)
  · exact count_of_about (r.about_command hc) (by decide)

theorem count_key (r : Row ε ν) (k : KeyEvent) : (r.key k).notices.count .viewerLoading = 0 := by
  rcases r.key_cases k with h | ⟨c, h⟩ | ⟨-, h⟩
  · rw [h]
    rfl
  · rw [h]
    exact r.count_command c
  · rw [h]
    exact count_of_about (r.about_editorKey k) (by decide)

variable [Viewer ν]

theorem viewer_draw (r : Row ε ν) (source : ViewerSource ν) (a : Area) (c : Canvas) :
    (r.draw source a c).row.viewer =
      r.viewer.run ((r.draw source a c).row.content.viewerSteps r.viewer source) := by
  rw [(r.shown_draw source a c).content]
  simp only [draw, drawContent]
  cases r.content <;> rfl

theorem count_draw (r : Row ε ν) (source : ViewerSource ν) (a : Area) (c : Canvas) :
    (r.draw source a c).notices.count .viewerLoading =
      r.viewer.count starts ((r.draw source a c).row.content.viewerSteps r.viewer source) := by
  rw [(r.shown_draw source a c).content]
  simp only [draw, drawContent]
  cases r.content with
  | code text => exact count_load r.viewer source
  | editor | message | options | empty => rfl

def asked (r : Row ε ν) (o : Operation ν) : List (ViewerSlot.Step ν) :=
  match o.source? with
  | some source => (r.perform o).row.content.viewerSteps r.viewer source
  | none => []

theorem viewer_perform (r : Row ε ν) (ho : o.keepsViewer = true) :
    (r.perform o).row.viewer = r.viewer.run (r.asked o) := by
  cases o with
  | key k => exact (r.worked_key k).viewer
  | command c => exact (r.worked_command c).viewer
  | propose p source => exact viewer_loadViewer _ source
  | update source => exact r.viewer_loadViewer source
  | draw source a c => exact r.viewer_draw source a c
  | viewer source => exact absurd ho Bool.false_ne_true
  | features | mapping | loading | capabilities | place | dress => rfl

theorem count_perform (r : Row ε ν) (ho : o.keepsViewer = true) :
    (r.perform o).notices.count .viewerLoading = r.viewer.count starts (r.asked o) := by
  cases o with
  | key k => exact r.count_key k
  | command c => exact r.count_command c
  | propose p source =>
    have hstep := count_of_about (about_step r.state (.supply p.payload) r.capabilities.save)
      (by decide)
    refine (List.count_append).trans ?_
    rw [hstep, Nat.zero_add]
    exact count_loadViewer _ source
  | update source => exact r.count_loadViewer source
  | draw source a c => exact r.count_draw source a c
  | viewer source => exact absurd ho Bool.false_ne_true
  | features | mapping | loading | capabilities | place | dress => rfl

theorem exists_code_of_asked (h : r.asked o ≠ []) :
    ∃ text, (r.perform o).row.content = .code text := by
  unfold asked RowContent.viewerSteps at h
  split at h
  · split at h
    · next text hcontent => exact ⟨text, hcontent⟩
    · exact absurd rfl h
  · exact absurd rfl h

theorem stage_of_code (ho : o.keepsViewer = true) (hsource : o.source?.isSome = true)
    {text : String} (hcontent : (r.perform o).row.content = .code text) :
    1 ≤ (r.perform o).row.viewer.stage := by
  obtain ⟨source, hsource⟩ := Option.isSome_iff_exists.1 hsource
  have hasked : r.asked o = [.request source, .poll (r.viewer.request source).2.1] := by
    rw [asked, hsource, hcontent]
    rfl
  rw [viewer_perform r ho, hasked]
  exact ViewerSlot.one_le_stage_after _ (.poll _) (r.viewer.one_le_stage_request source)

def askedAll (r : Row ε ν) : List (Operation ν) → List (ViewerSlot.Step ν)
  | [] => []
  | o :: os => r.asked o ++ askedAll (r.perform o).row os

def log (r : Row ε ν) : List (Operation ν) → List Notice
  | [] => []
  | o :: os => (r.perform o).notices ++ log (r.perform o).row os

theorem viewer_performAll (r : Row ε ν) (hos : ∀ o ∈ os, o.keepsViewer = true) :
    (r.performAll os).viewer = r.viewer.run (r.askedAll os) := by
  induction os generalizing r with
  | nil => rfl
  | cons o os ih =>
    obtain ⟨ho, hos⟩ := List.forall_mem_cons.1 hos
    have hrest := ih (r.perform o).row hos
    rw [viewer_perform r ho] at hrest
    rw [askedAll, ViewerSlot.run_append]
    exact hrest

theorem count_log (r : Row ε ν) (hos : ∀ o ∈ os, o.keepsViewer = true) :
    (r.log os).count .viewerLoading = r.viewer.count starts (r.askedAll os) := by
  induction os generalizing r with
  | nil => rfl
  | cons o os ih =>
    obtain ⟨ho, hos⟩ := List.forall_mem_cons.1 hos
    have hrest := ih (r.perform o).row hos
    rw [viewer_perform r ho] at hrest
    rw [log, List.count_append, count_perform r ho, hrest, askedAll, ViewerSlot.count_append]

/-- Whatever is done to a row whose place for a code view starts idle, as it is before a new row is
updated for the first time, and whatever the source answers each time: a view is called for at most
once, which is logged, and only by an operation after which code is the content; of the load, the view
and the failure at most one is there; the place only moves forward, and stays as it is once it has
settled; at most one poll tells that loading ended, and no later one looks at the load; and what loads
or draws code does not leave the place idle. -/
theorem lifecycle_performAll (hstart : start.viewer = idle)
    (hos : ∀ o ∈ os, o.keepsViewer = true) :
    (idle.count starts (start.askedAll os) = (start.log os).count .viewerLoading ∧
      (start.log os).count .viewerLoading ≤ 1) ∧
    (∀ before o later, os = before ++ o :: later →
      .viewerLoading ∈ ((start.performAll before).perform o).notices →
      ∃ text, ((start.performAll before).perform o).row.content = .code text) ∧
    ((ViewerParts.empty.run (start.askedAll os)).present ≤ 1 ∧
      (ViewerParts.empty.run (start.askedAll os)).slot = (start.performAll os).viewer) ∧
    (∀ before later, os = before ++ later →
      (start.performAll before).viewer.Precedes (start.performAll os).viewer) ∧
    (idle.count reports (start.askedAll os) ≤ 1 ∧
      ∀ before t later, start.askedAll os = before ++ t :: later →
        (idle.run before).reports t = true →
        ((idle.run before).after t).count looks later = 0) ∧
    ∀ before o later, os = before ++ o :: later → o.source?.isSome = true →
      ∀ text, ((start.performAll before).perform o).row.content = .code text →
        1 ≤ ((start.performAll before).perform o).row.viewer.stage := by
  have hviewer := viewer_performAll start hos
  rw [hstart] at hviewer
  have hloads := count_log start hos
  rw [hstart] at hloads
  refine ⟨⟨hloads.symm, ?_⟩, ?_, ?_, ?_, ⟨idle.count_reports_le_one _, ?_⟩, ?_⟩
  · rw [hloads]
    exact idle.count_starts_le_one _
  · intro before o later hsplit hmem
    have ho : o.keepsViewer = true := hos o (by simp [hsplit])
    refine exists_code_of_asked fun hasked ↦ ?_
    have hcount := count_perform (start.performAll before) ho
    rw [hasked, ViewerSlot.count] at hcount
    exact List.count_eq_zero.1 hcount hmem
  · rw [hviewer]
    exact ViewerParts.present_run_empty _
  · intro before later hsplit
    have hlater : ∀ o ∈ later, o.keepsViewer = true := fun o ho ↦ hos o (by simp [hsplit, ho])
    have hrun : start.performAll os = (start.performAll before).performAll later := by
      rw [hsplit]
      exact List.foldl_append
    rw [hrun, viewer_performAll _ hlater]
    exact ViewerSlot.precedes_run _ _
  · intro before t later _ hreports
    exact ViewerSlot.count_looks_of_reports hreports later
  · intro before o later hsplit hsource text hcontent
    exact stage_of_code (hos o (by simp [hsplit])) hsource hcontent

def coded : Row DocumentEditor :=
  mount ⟨⟨"Filter", none, ⟨.filter, .row, [], some "age > 1", none, []⟩⟩, 0⟩ [] .empty 0 .dark
    .empty

def waits : List Operation :=
  [.update .waiting, .loading true, .update .waiting, .update (.builtin 0), .update (.broken "gone")]

theorem lifecycle_performAll_waits :
    (coded.log waits).count .viewerLoading ≤ 1 ∧
      (coded.performAll (waits.take 3)).viewer.stage = 1 ∧
      (coded.performAll (waits.take 4)).viewer.stage = 2 ∧
      (coded.performAll waits).viewer = (coded.performAll (waits.take 4)).viewer := by
  have hkeeps : ∀ o ∈ waits, o.keepsViewer = true := by decide
  have hidle : coded.viewer = idle := rfl
  obtain ⟨⟨-, hloads⟩, -, -, hforward, -⟩ := lifecycle_performAll hidle hkeeps
  have hsettled : (coded.performAll (waits.take 4)).viewer.stage = 2 := rfl
  exact ⟨hloads, rfl, hsettled, (hforward (waits.take 4) (waits.drop 4) rfl).settled hsettled⟩

end Row

end SuggestionReview
