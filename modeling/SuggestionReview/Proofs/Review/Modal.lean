import SuggestionReview.Proofs.Review.Operation

namespace SuggestionReview

open Row (Shown)

namespace Review

variable {ε ν : Type} {l l' : Review ε ν}

def Viewed (l : Review ε ν) : Prop := true ∉ l.rows.map Row.isEditing

def Modal (l : Review ε ν) : Prop :=
  ∀ i (r : Row ε ν), l.rows[i]? = some r → r.isEditing = true → i = l.selected

theorem Viewed.modal (h : l.Viewed) : l.Modal := fun _ r hr he ↦
  absurd (List.mem_map.2 ⟨r, List.mem_of_getElem? hr, he⟩) h

theorem Modal.viewed (h : l.Modal) (he : l.isEditing = false) : l.Viewed := by
  intro hmem
  obtain ⟨r, hr, hediting⟩ := List.mem_map.1 hmem
  obtain ⟨i, hi⟩ := List.mem_iff_getElem?.1 hr
  obtain rfl := h i r hi hediting
  have hl : l.isEditing = true := (isEditing_of_selectedRow hi).trans hediting
  exact absurd (hl.symm.trans he) nofun

theorem Viewed.select (h : l.Viewed) (position : Nat) : (l.select position).Viewed := by
  rwa [Viewed, map_select fun _ _ ↦ by rfl]

theorem Modal.viewed_dismiss (h : l.Modal) (he : l.isEditing = false) (r' r : Row ε ν) :
    ((l.setRow l.selected r').dismiss l.selected r).1.Viewed := by
  refine Viewed.select (l := (l.setRow l.selected r').without l.selected) ?_ l.selected
  rw [Viewed, map_without fun _ _ ↦ by rfl, setRow, List.map_set, List.eraseIdx_set_eq]
  exact fun hmem ↦ h.viewed he (List.mem_of_mem_eraseIdx hmem)

theorem Modal.of_modes (h : l.Modal) (hrows : l'.rows.map Row.isEditing = l.rows.map Row.isEditing)
    (hs : l'.selected = l.selected) : l'.Modal := by
  intro i r' hr' he
  obtain ⟨r, hr, hmode⟩ := exists_getElem?_of_map_eq hrows hr'
  exact (h i r hr (hmode.trans he)).trans hs.symm

theorem Modal.update (h : l.Modal) : l.update.1.Modal := by
  obtain ⟨rows, source, status, -, heq⟩ := update_eq Row.shown_loadViewer l
  have hs : l.update.1.selected = l.selected := by rw [heq]
  exact h.of_modes (map_update (fun _ _ ↦ Shown.isEditing) (fun _ _ ↦ rfl) l) hs

/-- Whether nothing has happened to a review but to the row that is selected. -/
structure Confined (l l' : Review ε ν) : Prop where
  selected : l'.selected = l.selected
  length : l'.rows.length = l.rows.length
  others : ∀ i ≠ l.selected, l'.rows[i]? = l.rows[i]?
  quitting : l'.quitting = l.quitting
  pending : l'.pending = l.pending

theorem Confined.refl (l : Review ε ν) : Confined l l := ⟨rfl, rfl, fun _ _ ↦ rfl, rfl, rfl⟩

theorem Confined.modal (h : Confined l l') (hl : l.Modal) : l'.Modal := by
  intro i r hr he
  by_contra hne
  have hne : i ≠ l.selected := h.selected ▸ hne
  exact hne (hl i r ((h.others i hne).symm.trans hr) he)

theorem confined_setRow (l : Review ε ν) (r : Row ε ν) : Confined l (l.setRow l.selected r) :=
  ⟨rfl, List.length_set, fun _ hi ↦ List.getElem?_set_ne hi.symm, rfl, rfl⟩

theorem isEditing_of_reached {k : KeyEvent} {r : Row ε ν} (h : l.reached? k = some r) :
    l.isEditing = r.isEditing :=
  isEditing_of_selectedRow (selectedRow_of_reached h)

theorem viewed_built [Viewer ν] (f : SuggestionFile) (palette : Palette) (b : Bindings) (editor : ε)
    (choices : List (Choice ν)) : (built f palette b editor choices).Viewed := by
  rw [Viewed, map_built (fun _ _ ↦ Shown.isEditing) (fun _ _ _ _ ↦ by rfl) fun _ _ ↦ by rfl]
  intro hmem
  obtain ⟨i, _, hi⟩ := List.mem_mapIdx.1 hmem
  exact absurd hi nofun

variable [PayloadEditor ε]

theorem confined_save (l : Review ε ν) (r' r : Row ε ν) (p : Payload) :
    Confined l ((l.setRow l.selected r').save l.selected r p).1 := by
  simp only [save, setRow, List.set_set]
  exact ⟨rfl, List.length_set, fun _ hi ↦ List.getElem?_set_ne hi.symm, rfl, rfl⟩

/-- While a row is edited, a key gets to nothing but that row. -/
theorem confined_key (he : l.isEditing = true) (k : KeyEvent) : Confined l (l.key k).1 := by
  have hkeyed := l.keyed_key k
  generalize (l.key k).1 = l' at hkeyed
  cases hkeyed with
  | ignored => exact .refl l
  | quit _ hview | moved _ _ hview => exact absurd (he.symm.trans hview) nofun
  | worked r => exact confined_setRow l _
  | answered r e hk hevent =>
    obtain ⟨p, rfl⟩ := Row.save_of_editing ((isEditing_of_reached hk).symm.trans he) hevent
    simp only [handle, getElem?_setRow (selectedRow_of_reached hk)]
    exact confined_save l _ _ p

theorem Modal.key (h : l.Modal) (k : KeyEvent) : (l.key k).1.Modal := by
  cases he : l.isEditing with
  | true => exact (confined_key he k).modal h
  | false =>
    have hkeyed := l.keyed_key k
    generalize (l.key k).1 = l' at hkeyed
    cases hkeyed with
    | ignored => exact h
    | quit => exact h
    | moved position => exact ((h.viewed he).select position).modal
    | worked r => exact (confined_setRow l _).modal h
    | answered r e hk =>
      -- only dismissing moves rows, and then none is edited
      simp only [handle, getElem?_setRow (selectedRow_of_reached hk)]
      cases e with
      | apply =>
        have hset : (l.setRow l.selected { (r.key k).row with loading := true }).Modal :=
          (confined_setRow l _).modal h
        refine hset.of_modes ?_ rfl
        simp only [apply, setRow, List.set_set]
      | navigate column =>
        simp only [navigate]
        split <;> exact (confined_setRow l _).modal h
      | save p => exact (confined_save l _ _ p).modal h
      | dismiss => exact (h.viewed_dismiss he _ _).modal

theorem Modal.draw [Viewer ν]
    (h : l.Modal) {a : Area} {c : Canvas} {f : Frame ε ν} (hf : l.draw? a c = some f) :
    f.review.Modal := by
  obtain ⟨rows, source, offset, -, heq⟩ := draw_eq Row.shown_draw .refl hf
  have hs : f.review.selected = l.selected := by rw [heq]
  exact h.of_modes (map_draw (fun _ _ ↦ Shown.isEditing) hf) hs

/-- In every review that is reached by keys, ticks and frames, only the selected row may be edited,
and while it is, a key leaves the selection, the other rows and what is being applied as they are,
and does not end the review. -/
theorem modal_run? [Viewer ν] {f : SuggestionFile} {palette : Palette} {b : Bindings} {editor : ε}
    {choices : List (Choice ν)} {hs : List Happening}
    (h : (built f palette b editor choices).run? hs = some l) :
    l.Modal ∧ (l.isEditing = true → ∀ k, Confined l (l.key k).1) :=
  ⟨run?_keeps (fun _ k hl ↦ hl.key k) (fun _ hl ↦ hl.update) (fun _ _ _ _ hf hl ↦ hl.draw hf)
    (viewed_built f palette b editor choices).modal h, confined_key⟩

/-- The key that dismisses a row is typed into the second one, which is edited. -/
theorem modal_run?_typed :
    ∃ l ∈ (built (.sums 2) .dark .standard DocumentEditor.empty []).run?
        [.key (.press .down .none), .key (.press (.char 'e') .none), .tick],
      l.isEditing = true ∧ l.selected = 1 ∧ l.Modal ∧
        Confined l (l.key (.press (.char 'x') .none)).1 := by
  have hrun : ∃ l ∈ (built (.sums 2) .dark .standard DocumentEditor.empty []).run?
      [.key (.press .down .none), .key (.press (.char 'e') .none), .tick],
      l.isEditing = true ∧ l.selected = 1 := by decide +kernel
  obtain ⟨l, hl, he, hselected⟩ := hrun
  obtain ⟨hmodal, hconfined⟩ := modal_run? hl
  exact ⟨l, hl, he, hselected, hmodal, hconfined he _⟩

end Review

end SuggestionReview
