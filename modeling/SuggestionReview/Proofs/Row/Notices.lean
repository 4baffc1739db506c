import SuggestionReview.Proofs.Row.Kept

namespace SuggestionReview

inductive Topic where
  | work
  | view
  | reference
  | list
deriving DecidableEq

def Notice.topic : Notice → Topic
  | toggleRefused | modeToggled _ | draftDiscarded | draftIgnored | saveIgnored | saving _
  | payloadSaved _ | applyRequested _ | dismissRequested _ => .work
  | viewerLoading | viewerFailed _ => .view
  | columnDisagrees .. | navigating _ => .reference
  | mappingDisagrees | applying _ | dismissing _ | navigated .. | navigatedOutside _ | bindings _ =>
    .list

def About (topic : Topic) (notices : List Notice) : Prop := ∀ x ∈ notices, x.topic = topic

variable {topic : Topic} {xs ys : List Notice}

theorem About.nil : About topic [] := fun _ hx ↦ absurd hx List.not_mem_nil

theorem About.singleton (x : Notice) : About x.topic [x] := by
  intro y hy
  rw [List.mem_singleton.1 hy]

theorem About.append (hx : About topic xs) (hy : About topic ys) : About topic (xs ++ ys) :=
  fun x hmem ↦ (List.mem_append.1 hmem).elim (hx x) (hy x)

theorem About.not_mem {x : Notice} (h : About topic xs) (hx : x.topic ≠ topic) : x ∉ xs :=
  fun hmem ↦ hx (h x hmem)

theorem about_step (s : EditState) (t : EditStep) (canSave : Bool) :
    About .work (s.step t canSave).notices := by
  cases t with
  | toggle =>
    simp only [EditState.step]
    split <;> exact .singleton _
  | supply p =>
    simp only [EditState.step]
    split
    · exact .nil
    · split
      · exact .singleton _
      · exact .nil
  | draft p =>
    simp only [EditState.step]
    split
    · exact .nil
    · exact .singleton _
  | save q =>
    simp only [EditState.step]
    split <;> exact .singleton _

namespace ViewerSlot

variable {ν : Type}

theorem about_request (slot : ViewerSlot ν) (source : ViewerSource ν) :
    About .view (slot.request source).2.2 := by
  unfold request
  split
  · exact .singleton _
  · exact .nil

theorem about_poll (slot : ViewerSlot ν) (source : ViewerSource ν) :
    About .view (slot.poll source).2.2 := by
  unfold poll
  split
  · exact .nil
  · exact .singleton _
  · exact .nil

theorem about_load (slot : ViewerSlot ν) (source : ViewerSource ν) :
    About .view (slot.load source).2.2 :=
  (slot.about_request source).append (about_poll _ _)

end ViewerSlot

namespace Row

variable {ε ν : Type}

theorem about_loadViewer (r : Row ε ν) (source : ViewerSource ν) :
    About .view (r.loadViewer source).2.2 := by
  unfold loadViewer
  split
  · exact r.viewer.about_load source
  · exact .nil

theorem about_followReference (r : Row ε ν) : About .reference r.followReference.notices := by
  unfold followReference
  split
  · exact .nil
  · next piece _ =>
    cases piece with
    | label | separator => exact .nil
    | reference name column =>
      refine About.append ?_ (.singleton (.navigating column))
      simp only [columnNotices]
      split
      · exact .nil
      · exact .singleton _

variable [PayloadEditor ε]

theorem about_command (r : Row ε ν) {c : Command} (hc : c ≠ .activateReference) :
    About .work (r.command c).notices := by
  cases c with
  | apply | dismiss =>
    simp only [command]
    split
    · exact .singleton _
    · exact .nil
  | toggleEdit => exact about_step r.state .toggle _
  | activateReference => exact absurd rfl hc
  | nextReference | previousReference | moveUp | moveDown | quit => exact .nil

theorem about_editorKey (r : Row ε ν) (k : KeyEvent) : About .work (r.editorKey k).notices := by
  unfold editorKey
  rcases PayloadEditor.key r.editor k with ⟨editor, - | p | q⟩
  · exact .nil
  · exact about_step r.state (.draft p) _
  · refine About.append (about_step r.state (.save q) _) ?_
    split
    · exact .singleton _
    · exact .nil

theorem about_draw [Viewer ν] (r : Row ε ν) (source : ViewerSource ν) (a : Area) (c : Canvas) :
    About .view (r.draw source a c).notices := by
  simp only [draw, drawContent]
  split
  · exact .nil
  · exact .nil
  · exact .nil
  · exact r.viewer.about_load source
  · exact .nil

end Row

end SuggestionReview
