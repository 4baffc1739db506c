import SuggestionReview.Proofs.Review.Cards
import SuggestionReview.Proofs.Review.Coherent

namespace SuggestionReview

theorem Operation.isFrame_of_isTick {o : Operation ν} (h : o.isTick = true) :
    o.isFrame = false := by
  cases o with
  | event | deliver => rfl
  | happens happening =>
    cases happening with
    | key | tick => rfl
    | frame => exact absurd h nofun

namespace Review

variable {ε ν : Type} {l l' : Review ε ν} {o : Operation ν}

theorem pending_select (l : Review ε ν) (position : Nat) :
    (l.select position).pending = l.pending := by
  rw [select_eq]
  rfl

theorem pending_built [Viewer ν]
    (f : SuggestionFile) (palette : Palette) (b : Bindings) (editor : ε)
    (choices : List (Choice ν)) : (built f palette b editor choices).pending = [] := by
  obtain ⟨rows, source, heq⟩ := built_eq f palette b editor choices
  rw [heq]
  rfl

theorem remaining_sublist {α : Type} (q : Option (Nat × RowEvent)) (xs : List α) :
    (remaining q xs).Sublist xs := by
  unfold remaining
  split
  · exact List.eraseIdx_sublist _ _
  · exact .refl xs

def requested (q : Option (Nat × RowEvent)) (ps : List PendingApply) : List PendingApply :=
  match q with
  | some (i, .apply) => if ps.any (·.position = i) then ps else ps ++ [⟨i, false⟩]
  | some (i, .dismiss) => pendingWithout i ps
  | _ => ps

def cameFrom (q : Option (Nat × RowEvent)) (i : Nat) : Nat :=
  match q with
  | some (removed, .dismiss) => before removed i
  | _ => i

theorem getElem?_remaining {α : Type} (q : Option (Nat × RowEvent)) (xs : List α) (i : Nat) :
    (remaining q xs)[i]? = xs[cameFrom q i]? := by
  unfold remaining
  split
  · exact getElem?_eraseIdx xs _ i
  · next hq =>
    unfold cameFrom
    split
    · exact absurd rfl (hq _)
    · rfl

theorem mem_requested {q : Option (Nat × RowEvent)} {ps : List PendingApply} {i : Nat}
    {drawn : Bool} : ⟨i, drawn⟩ ∈ requested q ps ↔ ⟨cameFrom q i, drawn⟩ ∈ ps ∨
      q = some (i, .apply) ∧ i ∉ ps.map (·.position) ∧ drawn = false := by
  rcases q with - | ⟨position, e⟩
  · simp [requested, cameFrom]
  · cases e with
    | apply =>
      have hany : ps.any (·.position = position) = true ↔ position ∈ ps.map (·.position) := by simp
      simp only [requested, cameFrom, hany, Option.some.injEq, Prod.mk.injEq, and_true]
      split
      · next hmem =>
        refine ⟨.inl, fun h ↦ h.resolve_right ?_⟩
        rintro ⟨rfl, hnot, -⟩
        exact hnot hmem
      · next hnot =>
        simp only [List.mem_append, List.mem_singleton, PendingApply.mk.injEq]
        refine or_congr_right ⟨?_, ?_⟩
        · rintro ⟨rfl, rfl⟩
          exact ⟨rfl, hnot, rfl⟩
        · rintro ⟨rfl, -, rfl⟩
          exact ⟨rfl, rfl⟩
    | dismiss => simp [requested, cameFrom, mem_pendingWithout]
    | navigate | save => simp [requested, cameFrom]

def passed (o : Operation ν) (ps : List PendingApply) : List PendingApply :=
  if o.isTick then ps.filter (!·.drawn)
  else if o.isFrame then ps.map ({ · with drawn := true })
  else ps

theorem passed_eq_self (ho : o.passes = false) (ps : List PendingApply) : passed o ps = ps := by
  obtain ⟨htick, hframe⟩ := Bool.or_eq_false_iff.1 ho
  simp [passed, htick, hframe]

theorem mem_passed {ps : List PendingApply} {i : Nat} {drawn' : Bool} :
    ⟨i, drawn'⟩ ∈ passed o ps ↔
      ∃ drawn, ⟨i, drawn⟩ ∈ ps ∧ (drawn && o.isTick) = false ∧ (drawn || o.isFrame) = drawn' := by
  unfold passed
  split
  · next htick => simp [htick, Operation.isFrame_of_isTick htick]
  · next htick =>
    split
    · next hframe =>
      simp only [htick, hframe, List.mem_map, Bool.and_false, true_and, Bool.or_true]
      constructor
      · rintro ⟨p, hp, heq⟩
        obtain ⟨rfl, rfl⟩ := PendingApply.mk.inj heq
        exact ⟨p.drawn, hp, rfl⟩
      · rintro ⟨drawn, hp, rfl⟩
        exact ⟨_, hp, rfl⟩
    · next hframe => simp [htick, hframe]

variable [PayloadEditor ε]

theorem pending_handle {i : Nat} {r : Row ε ν} (hr : l.rows[i]? = some r) (e : RowEvent) :
    (l.handle i e).1.pending = requested (some (i, e)) l.pending := by
  simp only [handle, hr]
  cases e with
  | apply => rfl
  | dismiss => exact pending_select _ _
  | navigate column =>
    simp only [navigate]
    split <;> rfl
  | save p => rfl

theorem pending_perform [Viewer ν] (h : l.perform? o = some l') :
    l'.pending = passed o (requested (l.request? o) l.pending) := by
  cases performed_of_perform? h with
  | still quitting source hq ho =>
    rw [passed_eq_self ho, hq]
    rfl
  | moved position hq ho =>
    rw [passed_eq_self ho, hq]
    exact pending_select l position
  | worked r r' hr hw hq ho =>
    rw [passed_eq_self ho, hq]
    rfl
  | answered i e r r' hr hw hq ho =>
    rw [passed_eq_self ho, hq, pending_handle (getElem?_setRow hr r')]
    rfl
  | ticked =>
    obtain ⟨rows, source, status, -, heq⟩ := update_eq Row.shown_loadViewer l
    rw [heq]
    rfl
  | drawn f hf =>
    obtain ⟨rows, source, offset, -, heq⟩ := draw_eq Row.shown_draw .refl hf
    rw [heq]
    rfl

theorem passes_of_request {q : Nat × RowEvent} (h : l.request? o = some q) : o.passes = false := by
  cases o with
  | event | deliver => rfl
  | happens happening =>
    cases happening with
    | key => rfl
    | tick | frame => exact absurd h nofun

/-- A row is being applied after an operation if it was before, unless a tick has ended that, or if
the operation applies it. -/
theorem mem_pending_perform [Viewer ν] (h : l.perform? o = some l') {i : Nat} {drawn' : Bool} :
    ⟨i, drawn'⟩ ∈ l'.pending ↔
      (∃ drawn, ⟨cameFrom (l.request? o) i, drawn⟩ ∈ l.pending ∧ (drawn && o.isTick) = false ∧
        (drawn || o.isFrame) = drawn') ∨
      l.request? o = some (i, .apply) ∧ i ∉ l.applying ∧ drawn' = false := by
  rw [pending_perform h]
  rcases hq : l.request? o with - | q
  · simp only [requested, mem_passed, cameFrom, reduceCtorEq, false_and, or_false]
  · have ho := passes_of_request hq
    obtain ⟨htick, hframe⟩ := Bool.or_eq_false_iff.1 ho
    rw [passed_eq_self ho, mem_requested]
    simp only [htick, hframe, Bool.and_false, Bool.or_false, true_and, exists_eq_right]
    rfl

end Review

end SuggestionReview
