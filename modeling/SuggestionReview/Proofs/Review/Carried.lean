import Mathlib.Logic.Relation
import SuggestionReview.Proofs.Review.Operation
import SuggestionReview.Proofs.Row.Operation

namespace SuggestionReview

open List (Forall₂)
open Relation (ReflTransGen)

namespace Row

/-- Whether a review does something to its rows by itself. -/
def Operation.isRoutine {ν : Type} : Operation ν → Bool
  | key _ | propose _ _ | loading _ | place _ _ _ _ | update _ | draw _ _ _ => true
  | command _ | features _ _ | mapping _ | capabilities _ | dress _ _ | viewer _ => false

structure Setting where
  index : FeatureIndex
  mapping : FeatureMapping
  bindings : Bindings

variable {ε ν : Type}

def setting (r : Row ε ν) : Setting := ⟨r.index, r.mapping, r.bindings⟩

theorem Shown.setting {r r' : Row ε ν} (h : Shown r r') : r'.setting = r.setting := by
  cases h
  rfl

theorem Worked.setting {r r' : Row ε ν} (h : Worked r r') : r'.setting = r.setting := by
  cases h
  rfl

variable [Viewer ν] [PayloadEditor ε]

theorem setting_perform (r : Row ε ν) {o : Operation ν} (ho : o.isRoutine = true) :
    (r.perform o).row.setting = r.setting := by
  cases o with
  | key k => exact (r.worked_key k).setting
  | propose p source => exact (shown_loadViewer _ source).setting
  | update source => exact (r.shown_loadViewer source).setting
  | draw source a c => exact (r.shown_draw source a c).setting
  | loading | place => rfl
  | command | features | mapping | capabilities | dress | viewer => exact absurd ho nofun

def Turns (r r' : Row ε ν) : Prop := ∃ o : Operation ν, o.isRoutine = true ∧ (r.perform o).row = r'

/-- Whether a row is what became of another one in a review. -/
def Becomes : Row ε ν → Row ε ν → Prop := ReflTransGen Turns

namespace Becomes

variable {r r' : Row ε ν}

theorem refl (r : Row ε ν) : Becomes r r := ReflTransGen.refl

theorem perform (r : Row ε ν) {o : Operation ν} (ho : o.isRoutine = true) :
    Becomes r (r.perform o).row :=
  ReflTransGen.single ⟨o, ho, rfl⟩

theorem trans {r'' : Row ε ν} (h : Becomes r r') (h' : Becomes r' r'') : Becomes r r'' :=
  ReflTransGen.trans h h'

theorem placed (r : Row ε ν) (position : Nat) (focused : Bool) :
    Becomes r { r with position, focused } :=
  perform r (o := .place position r.numbered r.bordered focused) rfl

theorem lasts {P : Row ε ν → Prop} (hP : ∀ r o, o.isRoutine = true → P r → P (r.perform o).row)
    (h : Becomes r r') (hr : P r) : P r' := by
  induction h with
  | refl => exact hr
  | tail _ hturns ih =>
    obtain ⟨o, ho, rfl⟩ := hturns
    exact hP _ o ho ih

end Becomes

end Row

namespace Review

open Row (Becomes Shown)

variable {ε ν : Type} [Viewer ν]

variable {f : SuggestionFile} {palette : Palette} {b : Bindings} {editor : ε}
  {choices : List (Choice ν)}

theorem exists_newRow {α : Type} {g : Row ε ν → α} (hs : ∀ r r', Shown r r' → g r' = g r)
    (hg : ∀ (r : Row ε ν) numbered bordered capabilities,
      g { r with numbered, bordered, capabilities } = g r)
    (hfocus : ∀ (r : Row ε ν) focused, g { r with focused } = g r) {r : Row ε ν}
    (hr : r ∈ (built f palette b editor choices).rows) :
    ∃ i s, g r = g (newRow f palette b editor i s) := by
  have hmem := List.mem_map_of_mem (f := g) hr
  rw [map_built hs hg hfocus] at hmem
  obtain ⟨i, hi, h⟩ := List.mem_mapIdx.1 hmem
  exact ⟨i, _, h.symm⟩

theorem setting_built {r : Row ε ν} (hr : r ∈ (built f palette b editor choices).rows) :
    r.setting = ⟨.ofFeatures f.features, f.effectiveMapping, b⟩ := by
  obtain ⟨i, s, h⟩ := exists_newRow (fun _ _ ↦ Shown.setting) (fun _ _ _ _ ↦ rfl) (fun _ _ ↦ rfl) hr
  exact h

theorem headed_built {r : Row ε ν} (hr : r ∈ (built f palette b editor choices).rows) :
    r.Headed := by
  obtain ⟨i, s, h⟩ := exists_newRow (fun _ _ ↦ Shown.card) (fun _ _ _ _ ↦ rfl) (fun _ _ ↦ rfl) hr
  exact Row.Headed.of_card (r := newRow f palette b editor i s) rfl h

variable [PayloadEditor ε] {l l' : Review ε ν}

def Carried (l l' : Review ε ν) : Prop := ∀ r' ∈ l'.rows, ∃ r ∈ l.rows, r.Becomes r'

theorem Carried.refl (l : Review ε ν) : Carried l l := fun r hr ↦ ⟨r, hr, .refl r⟩

theorem Carried.trans {l'' : Review ε ν} (h : Carried l l') (h' : Carried l' l'') :
    Carried l l'' := by
  intro r'' hr''
  obtain ⟨r', hr', hbecomes'⟩ := h' r'' hr''
  obtain ⟨r, hr, hbecomes⟩ := h r' hr'
  exact ⟨r, hr, hbecomes.trans hbecomes'⟩

theorem Carried.of_forall₂ (h : Forall₂ Becomes l.rows l'.rows) : Carried l l' :=
  fun _ ↦ exists_of_forall₂ h

theorem carried_select (l : Review ε ν) (position : Nat) : Carried l (l.select position) := by
  rw [select_eq]
  exact .of_forall₂ (forall₂_mapIdx (fun _ r ↦ .placed r r.position _) l.rows)

theorem carried_setRow {i : Nat} {r r' : Row ε ν} (hr : l.rows[i]? = some r) (h : r.Becomes r') :
    Carried l (l.setRow i r') :=
  .of_forall₂ (forall₂_setRow .refl hr h)

theorem carried_without (l : Review ε ν) (removed : Nat) : Carried l (l.without removed) := by
  intro r' hr'
  obtain ⟨i, hi⟩ := List.mem_iff_getElem?.1 hr'
  rw [getElem?_without] at hi
  obtain ⟨r, hr, rfl⟩ := Option.map_eq_some_iff.1 hi
  refine ⟨r, List.mem_of_getElem? hr, ?_⟩
  split
  · exact .placed r i r.focused
  · exact .refl r

theorem carried_update (l : Review ε ν) : Carried l l.update.1 := by
  obtain ⟨rows, source, status, hrows, heq⟩ :=
    update_eq (fun r source ↦ Becomes.perform r (o := .update source) rfl) l
  rw [heq]
  intro r'' hr''
  obtain ⟨r', hr', hbecomes'⟩ := exists_of_forall₂ hrows hr''
  have hsettled : Forall₂ Becomes l.rows (settled l.drawnPositions l.rows) := by
    refine forall₂_mapIdx (fun i r ↦ ?_) l.rows
    split
    · exact .perform r (o := .loading false) rfl
    · exact .refl r
  obtain ⟨r, hr, hbecomes⟩ := exists_of_forall₂ hsettled hr'
  exact ⟨r, hr, hbecomes.trans hbecomes'⟩

theorem carried_draw {a : Area} {c : Canvas} {f : Frame ε ν} (hf : l.draw? a c = some f) :
    Carried l f.review := by
  obtain ⟨rows, source, offset, hrows, heq⟩ :=
    draw_eq (fun r source a c ↦ Becomes.perform r (o := .draw source a c) rfl) .refl hf
  rw [heq]
  exact .of_forall₂ hrows

theorem carried_handle (l : Review ε ν) (i : Nat) (e : RowEvent) : Carried l (l.handle i e).1 := by
  unfold handle
  split
  · exact .refl l
  · next r hr =>
    cases e with
    | apply => exact carried_setRow hr (.perform r (o := .loading true) rfl)
    | dismiss => exact (l.carried_without i).trans (carried_select _ l.selected)
    | navigate column =>
      simp only [navigate]
      split <;> exact .refl l
    | save p =>
      exact carried_setRow hr
        (.perform r (o := .propose (r.proposal.withPayload ⟨l.fresh, p⟩) l.source) rfl)

theorem carried_key (l : Review ε ν) (k : KeyEvent) : Carried l (l.key k).1 := by
  have hkeyed := l.keyed_key k
  generalize (l.key k).1 = l' at hkeyed
  cases hkeyed with
  | ignored | quit => exact .refl l
  | moved position => exact l.carried_select position
  | worked r hk => exact carried_setRow (selectedRow_of_reached hk) (.perform r (o := .key k) rfl)
  | answered r e hk =>
    exact (carried_setRow (selectedRow_of_reached hk) (.perform r (o := .key k) rfl)).trans
      (carried_handle _ l.selected e)

/-- Every row after a run became what it is by operations on a row that was there before. -/
theorem carried_run? {hs : List Happening} (h : l.run? hs = some l') : Carried l l' :=
  run?_keeps (fun m k hl ↦ hl.trans (m.carried_key k)) (fun m hl ↦ hl.trans m.carried_update)
    (fun _ _ _ _ hf hl ↦ hl.trans (carried_draw hf)) (.refl l) h

theorem Carried.lasts {P : Row ε ν → Prop}
    (hP : ∀ r o, o.isRoutine = true → P r → P (Row.perform r o).row) (h : Carried l l')
    (hl : ∀ r ∈ l.rows, P r) : ∀ r ∈ l'.rows, P r := by
  intro r' hr'
  obtain ⟨r, hr, hbecomes⟩ := h r' hr'
  exact hbecomes.lasts hP (hl r hr)

theorem setting_run? {hs : List Happening} (h : (built f palette b editor choices).run? hs = some l)
    {r : Row ε ν} (hr : r ∈ l.rows) :
    r.setting = ⟨.ofFeatures f.features, f.effectiveMapping, b⟩ :=
  (carried_run? h).lasts (fun r _ ho hset ↦ (r.setting_perform ho).trans hset)
    (fun _ ↦ setting_built) r hr

theorem headed_run? {hs : List Happening} (h : (built f palette b editor choices).run? hs = some l)
    {r : Row ε ν} (hr : r ∈ l.rows) : r.Headed :=
  (carried_run? h).lasts (fun _ o _ hheaded ↦ hheaded.perform o) (fun _ ↦ headed_built) r hr

end Review

end SuggestionReview
