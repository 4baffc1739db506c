import SuggestionReview.Proofs.Review.Operation
import SuggestionReview.Proofs.Row.Look

namespace SuggestionReview

open Row (Shown Worked)

def Card.Fits (c : Card) : Prop := c.header = .build c.proposal.suggestion c.mapping

namespace Review

variable {ε ν : Type} {l l' : Review ε ν}

def cards (l : Review ε ν) : List Card := l.rows.map Row.card

theorem cards_select (l : Review ε ν) (position : Nat) : (l.select position).cards = l.cards :=
  map_select (fun _ _ ↦ rfl) l position

theorem cards_built [Viewer ν] (f : SuggestionFile) (palette : Palette) (b : Bindings) (editor : ε)
    (choices : List (Choice ν)) : (built f palette b editor choices).cards =
      f.suggestions.mapIdx fun i s ↦ ⟨⟨s, i⟩, f.effectiveMapping, .build s f.effectiveMapping⟩ :=
  map_built (fun _ _ ↦ Shown.card) (fun _ _ _ _ ↦ rfl) (fun _ _ ↦ rfl) f palette b editor choices

def remaining {α : Type} (q : Option (Nat × RowEvent)) (xs : List α) : List α :=
  match q with
  | some (i, .dismiss) => xs.eraseIdx i
  | _ => xs

theorem map_remaining {α β : Type} (g : α → β) (q : Option (Nat × RowEvent)) (xs : List α) :
    (remaining q xs).map g = remaining q (xs.map g) := by
  unfold remaining
  split
  · exact (List.eraseIdx_map g xs _).symm
  · rfl

def cardsAfter (l : Review ε ν) : Option (Nat × RowEvent) → List Card
  | some (i, .save p) => l.cards.modify i (·.supply ⟨l.fresh, p⟩)
  | some (i, .dismiss) => l.cards.eraseIdx i
  | _ => l.cards

theorem map_cardsAfter_kept {α : Type} {g : Card → α} (hg : ∀ c given, g (c.supply given) = g c)
    (l : Review ε ν) (q : Option (Nat × RowEvent)) :
    (l.cardsAfter q).map g = remaining q (l.cards.map g) := by
  unfold cardsAfter
  split
  · next i p =>
    refine List.ext_getElem? fun j ↦ ?_
    simp only [remaining, List.getElem?_map, List.getElem?_modify]
    rcases l.cards[j]? with - | card
    · rfl
    · by_cases hj : i = j <;> simp [hj, hg]
  · exact (List.eraseIdx_map _ _ _).symm
  · next hsave hdismiss =>
    unfold remaining
    split
    · exact absurd rfl (hdismiss _)
    · rfl

theorem cards_dismiss (l : Review ε ν) (i : Nat) (r : Row ε ν) :
    (l.dismiss i r).1.cards = l.cards.eraseIdx i :=
  (cards_select (l.without i) l.selected).trans (map_without (fun _ _ ↦ rfl) l i)

def proposals (l : Review ε ν) : List Proposal := l.rows.map (·.proposal)

def proposalsAfter (l : Review ε ν) : Option (Nat × RowEvent) → List Proposal
  | some (i, .save p) => l.proposals.modify i (·.withPayload ⟨l.fresh, p⟩)
  | some (i, .dismiss) => l.proposals.eraseIdx i
  | _ => l.proposals

theorem map_cards (l : Review ε ν) : l.cards.map (·.proposal) = l.proposals := List.map_map

theorem map_cardsAfter (l : Review ε ν) (q : Option (Nat × RowEvent)) :
    (l.cardsAfter q).map (·.proposal) = l.proposalsAfter q := by
  have hcards := l.map_cards
  unfold cardsAfter proposalsAfter
  split
  · next i p =>
    refine List.ext_getElem? fun j ↦ ?_
    rw [← hcards, List.getElem?_map, List.getElem?_modify, List.getElem?_modify, List.getElem?_map]
    rcases l.cards[j]? with - | card
    · rfl
    · by_cases hj : i = j <;> simp [hj, Card.supply]
  · rw [← List.eraseIdx_map, hcards]
  · exact hcards

variable [PayloadEditor ε]

theorem cards_save {i : Nat} {r : Row ε ν} (hr : l.rows[i]? = some r) (p : Payload) :
    (l.save i r p).1.cards = l.cards.modify i (·.supply ⟨l.fresh, p⟩) := by
  have hi : l.cards[i]? = some r.card := by rw [cards, List.getElem?_map, hr, Option.map_some]
  rw [List.modify_eq_set_getElem?, hi]
  simp only [save, setRow, cards, List.map_set, Row.card_setProposal]
  rfl

theorem cards_handle {i : Nat} {r : Row ε ν} (hr : l.rows[i]? = some r) (e : RowEvent) :
    (l.handle i e).1.cards = l.cardsAfter (some (i, e)) := by
  simp only [handle, hr]
  cases e with
  | apply => exact map_setRow (g := Row.card) hr rfl
  | dismiss => exact cards_dismiss l i r
  | navigate column =>
    simp only [navigate]
    split <;> rfl
  | save p => exact cards_save hr p

theorem cards_perform [Viewer ν] {o : Operation ν} (h : l.perform? o = some l') :
    l'.cards = l.cardsAfter (l.request? o) := by
  cases performed_of_perform? h with
  | still quitting source hq =>
    rw [hq]
    rfl
  | moved position hq =>
    rw [hq]
    exact cards_select l position
  | worked r r' hr hw hq =>
    rw [hq]
    exact map_setRow hr hw.card
  | answered i e r r' hr hw hq =>
    have hcards : (l.setRow i r').cards = l.cards := map_setRow hr hw.card
    rw [cards_handle (getElem?_setRow hr r'), hq]
    simp only [cardsAfter, hcards]
    rfl
  | ticked => exact map_update (fun _ _ ↦ Shown.card) (fun _ _ ↦ rfl) l
  | drawn f hf => exact map_draw (fun _ _ ↦ Shown.card) hf

theorem fits_perform [Viewer ν]
    {o : Operation ν} (h : l.perform? o = some l') (hl : ∀ c ∈ l.cards, c.Fits) :
    ∀ c ∈ l'.cards, c.Fits := by
  intro c hc
  rw [cards_perform h] at hc
  unfold cardsAfter at hc
  split at hc
  · obtain ⟨j, hj⟩ := List.mem_iff_getElem?.1 hc
    rw [List.getElem?_modify] at hj
    obtain ⟨c₀, hc₀, rfl⟩ := Option.map_eq_some_iff.1 hj
    split
    · rfl
    · exact hl c₀ (List.mem_of_getElem? hc₀)
  · exact hl c (List.mem_of_mem_eraseIdx hc)
  · exact hl c hc

/-- However a review was reached: only saving and dismissing change its suggestions, and only the
one that is saved or dismissed. Headers are built from the suggestions, and a row that is not edited
shows its suggestion, whatever there is in its draft and its editor. -/
theorem proposals_performAll? [Viewer ν]
    {f : SuggestionFile} {palette : Palette} {b : Bindings} {editor : ε}
    {choices : List (Choice ν)} {os : List (Operation ν)}
    (h : (built f palette b editor choices).performAll? os = some l) :
    (∀ o l', l.perform? o = some l' → l'.proposals = l.proposalsAfter (l.request? o)) ∧
    ∀ r ∈ l.rows, r.header = .build r.suggestion r.mapping ∧
      (r.isEditing = false → r.content = .ofSuggestion r.suggestion ∧
        ∀ state editor, state.isEditing = false → r.SameLook { r with state, editor }) := by
  refine ⟨fun o l' ho ↦ ?_, fun r hr ↦ ⟨?_, fun hview ↦ ?_⟩⟩
  · rw [← map_cardsAfter, ← cards_perform ho]
    exact l'.map_cards.symm
  · have hbuilt : ∀ c ∈ (built f palette b editor choices).cards, c.Fits := by
      rw [cards_built]
      intro c hc
      obtain ⟨i, _, rfl⟩ := List.mem_mapIdx.1 hc
      rfl
    have hl : ∀ c ∈ l.cards, c.Fits :=
      performAll?_invariant (fun _ _ _ ho hl ↦ fits_perform ho hl) hbuilt h
    exact hl r.card (List.mem_map_of_mem hr)
  · exact ⟨r.content_of_viewed hview, fun _ _ hstate ↦ r.sameLook_of_viewed hview hstate⟩

theorem proposals_performAll?_dismissed :
    ∃ l ∈ (built (.sums 2) .dark .standard DocumentEditor.empty []).performAll?
        ([.press (.char 'e') .none, .press .down .none, .press .last .none, .press .left .none,
          .press .left .none, .press (.char 's') .none,
          .press (.char 'e') ⟨true, false, false⟩].map (.happens <| .key ·)),
      ∃ r ∈ l.rows, r.isEditing = false ∧
        r.state.draft.actionType ≠ r.suggestion.payload.actionType ∧
        r.content = .ofSuggestion r.suggestion ∧
        ∃ l' ∈ l.perform? (.happens (.key (.press (.char 'x') .none))),
          l'.rows.length = 1 ∧ l'.proposals =
            l.proposalsAfter (l.request? (.happens (.key (.press (.char 'x') .none)))) := by
  have hrun : ∃ l ∈ (built (.sums 2) .dark .standard DocumentEditor.empty []).performAll?
      ([.press (.char 'e') .none, .press .down .none, .press .last .none, .press .left .none,
        .press .left .none, .press (.char 's') .none,
        .press (.char 'e') ⟨true, false, false⟩].map (.happens <| .key ·)),
      (∃ r ∈ l.rows, r.isEditing = false ∧
        r.state.draft.actionType ≠ r.suggestion.payload.actionType) ∧
      ∃ l' ∈ l.perform? (.happens (.key (.press (.char 'x') .none))), l'.rows.length = 1 := by
    decide +kernel
  obtain ⟨l, hl, ⟨r, hr, hview, hdraft⟩, l', hl', hlength⟩ := hrun
  obtain ⟨hproposals, hrows⟩ := proposals_performAll? hl
  obtain ⟨-, hshown⟩ := hrows r hr
  exact ⟨l, hl, r, hr, hview, hdraft, (hshown hview).1, l', hl', hlength, hproposals _ _ hl'⟩

end Review

end SuggestionReview
