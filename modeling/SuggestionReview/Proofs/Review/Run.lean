import SuggestionReview.Proofs.Review.Keyed
import SuggestionReview.Proofs.Row.Work

namespace SuggestionReview

open List (Forall₂)
open Row (SameWork)

inductive Happening where
  | key (k : KeyEvent)
  | tick
  | frame (a : Area) (c : Canvas)

namespace Review

section Runs

variable {ε ν : Type} [PayloadEditor ε] [Viewer ν]

def after? (l : Review ε ν) : Happening → Option (Review ε ν)
  | .key k => some (l.key k).1
  | .tick => some l.update.1
  | .frame a c => (l.draw? a c).map (·.review)

def run? (l : Review ε ν) : List Happening → Option (Review ε ν)
  | [] => some l
  | h :: hs => (l.after? h).bind (run? · hs)

/-- Whether something holds of every step of a run. -/
def Along (P : Review ε ν → Happening → Review ε ν → Prop) (l : Review ε ν) : List Happening → Prop
  | [] => True
  | h :: hs => ∀ l' ∈ l.after? h, P l h l' ∧ Along P l' hs

instance decidableAlong
    {P : Review ε ν → Happening → Review ε ν → Prop} [∀ l h l', Decidable (P l h l')] :
    ∀ (l : Review ε ν) (hs : List Happening), Decidable (Along P l hs)
  | _, [] => .isTrue trivial
  | l, h :: hs =>
    have (l' : Review ε ν) : Decidable (Along P l' hs) := decidableAlong l' hs
    inferInstanceAs (Decidable (∀ l' ∈ l.after? h, P l h l' ∧ Along P l' hs))

theorem along_true (l : Review ε ν) (hs : List Happening) : Along (fun _ _ _ ↦ True) l hs := by
  induction hs generalizing l with
  | nil => trivial
  | cons h hs ih => exact fun l' _ ↦ ⟨trivial, ih l'⟩

/-- What holds of a review and is kept by every step holds after every run. -/
theorem run?_invariant {P : Review ε ν → Happening → Review ε ν → Prop} {I : Review ε ν → Prop}
    (hI : ∀ l h l', l.after? h = some l' → P l h l' → I l → I l') {l l' : Review ε ν}
    {hs : List Happening} (hl : I l) (hP : Along P l hs) (h : l.run? hs = some l') : I l' := by
  induction hs generalizing l with
  | nil => exact Option.some.inj h ▸ hl
  | cons x hs ih =>
    obtain ⟨m, hm, h⟩ := Option.bind_eq_some_iff.1 h
    obtain ⟨hx, hs⟩ := hP m hm
    exact ih (hI l x m hm hx hl) hs h

theorem run?_keeps {I : Review ε ν → Prop} (hkey : ∀ l k, I l → I (key l k).1)
    (htick : ∀ l, I l → I (update l).1)
    (hframe : ∀ l a c f, draw? l a c = some f → I l → I f.review) {l l' : Review ε ν}
    {hs : List Happening} (hl : I l) (h : l.run? hs = some l') : I l' := by
  refine run?_invariant (fun l h l' hafter _ hl ↦ ?_) hl (along_true l hs) h
  cases h with
  | key k =>
    obtain rfl := Option.some.inj hafter
    exact hkey l k hl
  | tick =>
    obtain rfl := Option.some.inj hafter
    exact htick l hl
  | frame a c =>
    obtain ⟨f, hf, rfl⟩ := Option.map_eq_some_iff.1 hafter
    exact hframe l a c f hf hl

end Runs

variable {l l' : Review DocumentEditor ν}

structure SameRows (l l' : Review DocumentEditor ν) : Prop where
  rows : Forall₂ SameWork l.rows l'.rows
  fresh : l'.fresh = l.fresh

theorem sameWorks_refl (rows : List (Row DocumentEditor ν)) : Forall₂ SameWork rows rows :=
  List.forall₂_same.2 fun r _ ↦ .refl r

theorem sameWorks_trans {rows rows' rows'' : List (Row DocumentEditor ν)}
    (h : Forall₂ SameWork rows rows') (h' : Forall₂ SameWork rows' rows'') :
    Forall₂ SameWork rows rows'' := by
  induction h generalizing rows'' with
  | nil => exact h'
  | cons hr h ih =>
    cases h' with
    | cons hr' h' => exact .cons (hr.trans hr') (ih h')

theorem SameRows.refl (l : Review DocumentEditor ν) : SameRows l l := ⟨sameWorks_refl _, rfl⟩

theorem sameRows_syncFocus (l : Review DocumentEditor ν) : SameRows l l.syncFocus :=
  ⟨forall₂_mapIdx (fun _ _ ↦ ⟨rfl, rfl, rfl, rfl, rfl⟩) l.rows, rfl⟩

theorem sameRows_select (l : Review DocumentEditor ν) (position : Nat) :
    SameRows l (l.select position) := by
  rw [select_eq]
  have h := sameRows_syncFocus { l with selected := min position (l.rows.length - 1) }
  exact ⟨h.rows, h.fresh⟩

theorem sameRows_setRow {i : Nat} {r r' : Row DocumentEditor ν} (hr : l.rows[i]? = some r)
    (h : SameWork r r') : SameRows l (l.setRow i r') :=
  ⟨forall₂_setRow .refl hr h, rfl⟩

theorem sameRows_update (l : Review DocumentEditor ν) : SameRows l l.update.1 := by
  obtain ⟨rows, source, status, hrows, h⟩ := update_eq Row.sameWork_loadViewer l
  rw [h]
  refine ⟨sameWorks_trans (forall₂_mapIdx (fun i r ↦ ?_) l.rows) hrows, rfl⟩
  split
  · exact ⟨rfl, rfl, rfl, rfl, rfl⟩
  · exact .refl r

theorem sameRows_draw [Viewer ν]
    {a : Area} {c : Canvas} {f : Frame DocumentEditor ν} (h : l.draw? a c = some f) :
    SameRows l f.review := by
  obtain ⟨rows, source, offset, hrows, h⟩ := draw_eq Row.sameWork_draw .refl h
  rw [h]
  exact ⟨hrows, rfl⟩

/-- A step either has nothing to do with the work on the rows, or gives a key to the selected row,
and may then save or dismiss it. -/
inductive Turn (l : Review DocumentEditor ν) : Happening → Review DocumentEditor ν → Prop
  | idle {h : Happening} {l' : Review DocumentEditor ν} (hl : SameRows l l') : Turn l h l'
  | keyed {k : KeyEvent} {l' : Review DocumentEditor ν} (r : Row DocumentEditor ν)
      (hr : l.selectedRow = some r) (hs : ∀ p, (r.key k).event ≠ some (.save p))
      (hd : (r.key k).event ≠ some .dismiss)
      (hl : SameRows (l.setRow l.selected (r.key k).row) l') : Turn l (.key k) l'
  | saved {k : KeyEvent} {l' : Review DocumentEditor ν} (r : Row DocumentEditor ν) (p : Payload)
      (hr : l.selectedRow = some r) (he : (r.key k).event = some (.save p))
      (hl : SameRows
        { l.setRow l.selected ((r.key k).row.setProposal
            ((r.key k).row.proposal.withPayload ⟨l.fresh, p⟩) l.source).1 with
          fresh := l.fresh + 1 } l') :
      Turn l (.key k) l'
  | dismissed {k : KeyEvent} {l' : Review DocumentEditor ν} (r : Row DocumentEditor ν)
      (hr : l.selectedRow = some r) (he : (r.key k).event = some .dismiss)
      (hl : SameRows { l with rows := l.rows.eraseIdx l.selected } l') : Turn l (.key k) l'

theorem sameRows_apply {i : Nat} {r : Row DocumentEditor ν} (hr : l.rows[i]? = some r) :
    SameRows l (l.apply i r).1 := by
  have h : SameRows l (l.setRow i { r with loading := true }) :=
    sameRows_setRow hr ⟨rfl, rfl, rfl, rfl, rfl⟩
  exact ⟨h.rows, h.fresh⟩

theorem sameRows_navigate (l : Review DocumentEditor ν) (r : Row DocumentEditor ν) (column : Nat) :
    SameRows l (l.navigate r column).1 := by
  unfold navigate
  split <;> exact ⟨sameWorks_refl _, rfl⟩

theorem sameRows_dismiss (l : Review DocumentEditor ν) (i : Nat) (r : Row DocumentEditor ν) :
    SameRows { l with rows := l.rows.eraseIdx i } (l.dismiss i r).1 := by
  have hrows : Forall₂ SameWork (l.rows.eraseIdx i) ((l.rows.eraseIdx i).mapIdx fun j r ↦
      if i ≤ j then { r with position := j } else r) :=
    forall₂_mapIdx (fun j r ↦ by split <;> exact ⟨rfl, rfl, rfl, rfl, rfl⟩) _
  have h := sameRows_select { l with
    rows := (l.rows.eraseIdx i).mapIdx fun j r ↦ if i ≤ j then { r with position := j } else r
    pending := pendingWithout i l.pending } l.selected
  exact ⟨sameWorks_trans hrows h.rows, h.fresh⟩

theorem turn_key (l : Review DocumentEditor ν) (k : KeyEvent) : Turn l (.key k) (l.key k).1 := by
  have hkeyed := l.keyed_key k
  generalize (l.key k).1 = l' at hkeyed
  cases hkeyed with
  | ignored => exact .idle (.refl l)
  | quit => exact .idle ⟨sameWorks_refl _, rfl⟩
  | moved position => exact .idle (sameRows_select l position)
  | worked r hk he =>
    exact .keyed r (selectedRow_of_reached hk) (by simp [he]) (by simp [he]) (.refl _)
  | answered r e hk he =>
    have hr := selectedRow_of_reached hk
    simp only [handle, getElem?_setRow hr]
    cases e with
    | apply =>
      exact .keyed r hr (by simp [he]) (by simp [he]) (sameRows_apply (getElem?_setRow hr _))
    | dismiss =>
      refine .dismissed r hr he ?_
      have h := sameRows_dismiss (l.setRow l.selected (r.key k).row) l.selected (r.key k).row
      rwa [setRow, List.eraseIdx_set_eq] at h
    | navigate column =>
      exact .keyed r hr (by simp [he]) (by simp [he]) (sameRows_navigate _ _ _)
    | save p =>
      refine .saved r p hr he ⟨?_, rfl⟩
      simp only [save, setRow, List.set_set]
      exact sameWorks_refl _

theorem turn_of_after? [Viewer ν] {h : Happening} (hl : l.after? h = some l') : Turn l h l' := by
  cases h with
  | key k =>
    obtain rfl := Option.some.inj hl
    exact turn_key l k
  | tick =>
    obtain rfl := Option.some.inj hl
    exact .idle (sameRows_update l)
  | frame a c =>
    obtain ⟨f, hf, rfl⟩ := Option.map_eq_some_iff.1 hl
    exact .idle (sameRows_draw hf)

inductive Origin (l l' : Review DocumentEditor ν) : Happening → Row DocumentEditor ν → Prop
  | kept {h : Happening} {r' : Row DocumentEditor ν} (r : Row DocumentEditor ν) (hr : r ∈ l.rows)
      (hf : l.fresh ≤ l'.fresh) (hw : SameWork r r') : Origin l l' h r'
  | keyed {k : KeyEvent} {r' : Row DocumentEditor ν} (r : Row DocumentEditor ν)
      (hr : l.selectedRow = some r) (hf : l'.fresh = l.fresh) (hw : SameWork (r.key k).row r') :
      Origin l l' (.key k) r'
  | saved {k : KeyEvent} {r' : Row DocumentEditor ν} (r : Row DocumentEditor ν) (p : Payload)
      (hr : l.selectedRow = some r) (he : (r.key k).event = some (.save p))
      (hf : l'.fresh = l.fresh + 1)
      (hw : SameWork ((r.key k).row.setProposal ((r.key k).row.proposal.withPayload ⟨l.fresh, p⟩)
        l.source).1 r') : Origin l l' (.key k) r'

theorem Turn.origin {h : Happening} (ht : Turn l h l') {r' : Row DocumentEditor ν}
    (hr' : r' ∈ l'.rows) : Origin l l' h r' := by
  cases ht with
  | idle hl =>
    obtain ⟨r, hr, hw⟩ := exists_of_forall₂ hl.rows hr'
    exact .kept r hr (Nat.le_of_eq hl.fresh.symm) hw
  | keyed r hr hs hd hl =>
    obtain ⟨m, hm, hw⟩ := exists_of_forall₂ hl.rows hr'
    rcases List.mem_or_eq_of_mem_set hm with hm | rfl
    · exact .kept m hm (Nat.le_of_eq hl.fresh.symm) hw
    · exact .keyed r hr hl.fresh hw
  | saved r p hr he hl =>
    obtain ⟨m, hm, hw⟩ := exists_of_forall₂ hl.rows hr'
    have hf : l'.fresh = l.fresh + 1 := hl.fresh
    rcases List.mem_or_eq_of_mem_set hm with hm | rfl
    · exact .kept m hm (by omega) hw
    · exact .saved r p hr he hf hw
  | dismissed r hr he hl =>
    obtain ⟨m, hm, hw⟩ := exists_of_forall₂ hl.rows hr'
    exact .kept m (List.mem_of_mem_eraseIdx hm) (Nat.le_of_eq hl.fresh.symm) hw

def opened (f : SuggestionFile) (palette : Palette) (bindings : Bindings) :
    Review DocumentEditor :=
  (ofFile f palette bindings .empty).1

theorem rows_opened (f : SuggestionFile) (palette : Palette) (bindings : Bindings) :
    Forall₂ SameWork (f.suggestions.mapIdx (newRow f palette bindings .empty))
      (opened f palette bindings).rows :=
  sameWorks_trans (forall₂_forRows Row.sameWork_loadViewer _ _)
    (forall₂_mapIdx (fun _ _ ↦ ⟨rfl, rfl, rfl, rfl, rfl⟩) _)

end Review

end SuggestionReview
