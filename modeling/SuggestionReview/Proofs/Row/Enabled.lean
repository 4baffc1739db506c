import SuggestionReview.Editor.Document
import SuggestionReview.Proofs.Row.Operation

namespace SuggestionReview

theorem Affordance.of_eq_visible {present loading : Bool} (h : of present loading = visible) :
    present = true ∧ loading = false := by
  revert h
  cases present <;> cases loading <;> decide

namespace Row

variable {ε ν : Type}

def IsNew (r : Row ε ν) : Prop :=
  ∃ p features mapping position palette editor source,
    r = new p features mapping position palette editor source

def Allowed (r : Row ε ν) : RowEvent → Prop
  | .apply => r.capabilities.apply = true ∧ r.loading = false
  | .dismiss => r.capabilities.dismiss = true ∧ r.loading = false
  | .save _ => r.capabilities.save = true ∧ r.isEditing = true
  | .navigate column => ∃ name ∈ r.suggestion.payload.arguments, r.mapping.get? name = some column

theorem IsNew.headed {r : Row ε ν} (h : r.IsNew) : r.Headed := by
  obtain ⟨p, features, mapping, position, palette, editor, source, rfl⟩ := h
  exact Headed.of_card (r := mount p features mapping position palette editor) rfl
    (shown_loadViewer _ source).card

theorem IsNew.isEditing {r : Row ε ν} (h : r.IsNew) : r.isEditing = false := by
  obtain ⟨p, features, mapping, position, palette, editor, source, rfl⟩ := h
  exact (shown_loadViewer _ source).isEditing

variable [Viewer ν] [PayloadEditor ε]
  {start r : Row ε ν} {os : List (Operation ν)} {o : Operation ν} {e : RowEvent}

/-- Whether saving was withdrawn while a row was edited. -/
def Withdrawn (start : Row ε ν) (os : List (Operation ν)) : Prop :=
  ∃ before c later, os = before ++ .capabilities c :: later ∧ c.save = false ∧
    (start.performAll before).isEditing = true

theorem Withdrawn.concat (h : start.Withdrawn os) (o : Operation ν) :
    start.Withdrawn (os ++ [o]) := by
  obtain ⟨before, c, later, rfl, hc, he⟩ := h
  exact ⟨before, c, later ++ [o], by simp, hc, he⟩

/-- A row that is edited may be saved, as long as that was not withdrawn. -/
theorem save_or_withdrawn (hstart : start.isEditing = false)
    (he : (start.performAll os).isEditing = true) :
    (start.performAll os).capabilities.save = true ∨ start.Withdrawn os := by
  induction os using List.reverseRecOn with
  | nil => exact absurd (he.symm.trans hstart) nofun
  | append_singleton os o ih =>
    rw [performAll_concat] at he ⊢
    by_cases ho : ∃ c, o = .capabilities c
    · obtain ⟨c, rfl⟩ := ho
      cases hc : c.save with
      | true => exact .inl hc
      | false => exact .inr ⟨os, c, [], rfl, hc, he⟩
    · rw [capabilities_perform fun c hc ↦ ho ⟨c, hc⟩]
      rcases isEditing_perform he with hbefore | hsave
      · exact (ih hbefore).imp_right (·.concat o)
      · exact .inl hsave

/-- Whatever was done to a row: it asks to be applied or dismissed only where it may be and is not
busy, it leads only to the column that the mapping gives to an argument, and it saves only while it
is edited, and only where it may be saved, unless that was withdrawn while it was edited. -/
theorem allowed_performAll (hstart : start.IsNew)
    (h : ((start.performAll os).perform o).event = some e) :
    (start.performAll os).Allowed e ∨
      (∃ q, e = .save q) ∧ (start.performAll os).isEditing = true ∧ start.Withdrawn os := by
  cases asks_perform h with
  | apply hvisible => exact .inl (Affordance.of_eq_visible hvisible)
  | dismiss hvisible => exact .inl (Affordance.of_eq_visible hvisible)
  | navigate name column hchosen =>
    exact .inl ⟨name, (headed_performAll hstart.headed os).exists_of_chosen hchosen⟩
  | save q he =>
    rcases save_or_withdrawn hstart.isEditing he with hsave | hwithdrawn
    · exact .inl ⟨hsave, he⟩
    · exact .inr ⟨⟨q, rfl⟩, he, hwithdrawn⟩

def average : Row DocumentEditor :=
  new ⟨⟨"Average", none, ⟨.average, .row, ["age"], none, none, []⟩⟩, 0⟩ [.named "age"]
    (.ofFeatures [.named "age"]) 0 .dark .empty (.builtin 0)

theorem isNew_average : average.IsNew := ⟨_, _, _, _, _, _, _, rfl⟩

def remapping : List Operation := [.command .nextReference, .mapping (.ofList [("age", 7)])]

theorem allowed_performAll_remapped :
    ∃ e, ((average.performAll remapping).perform (.command .activateReference)).event = some e ∧
      (average.performAll remapping).Allowed e := by
  have hrun : ((average.performAll remapping).perform (.command .activateReference)).event =
      some (.navigate 7) := rfl
  refine ⟨.navigate 7, hrun, ?_⟩
  rcases allowed_performAll isNew_average hrun with h | ⟨⟨q, hq⟩, -⟩
  · exact h
  · exact absurd hq nofun

def withdrawing : List Operation :=
  [.capabilities .all, .key (.press (.char 'e') .none), .capabilities .none]

def saving : Operation := .key (.press (.char 's') ⟨true, false, false⟩)

def savedDocument? : RowEvent → Option String
  | .save p => some p.toValue.compact
  | _ => none

/-- A row that may not be saved any more is saved, with the document that it has. -/
theorem not_allowed_withdrawn :
    average.IsNew ∧ (average.performAll withdrawing).capabilities.save = false ∧
      ∃ q, ((average.performAll withdrawing).perform saving).event = some (.save q) ∧
        q.toValue.compact = average.suggestion.payload.toValue.compact ∧
        ¬(average.performAll withdrawing).Allowed (.save q) := by
  have hcapability : (average.performAll withdrawing).capabilities.save = false := rfl
  have hsaved : ∃ e ∈ ((average.performAll withdrawing).perform saving).event,
      savedDocument? e = some average.suggestion.payload.toValue.compact := by
    decide +kernel
  obtain ⟨e, he, hdocument⟩ := hsaved
  obtain ⟨q, rfl⟩ := save_of_editing (by decide +kernel) he
  refine ⟨isNew_average, hcapability, q, he, Option.some.inj hdocument, fun h ↦ ?_⟩
  exact absurd (hcapability.symm.trans h.1) nofun

end Row

end SuggestionReview
