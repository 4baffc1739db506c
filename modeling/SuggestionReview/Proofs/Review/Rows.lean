import Mathlib.Data.List.Forall2
import Mathlib.Data.List.InsertIdx
import SuggestionReview.Review.Draw

namespace SuggestionReview

open List (Forall₂)

theorem forall₂_mapIdx {α : Type} {R : α → α → Prop} {f : Nat → α → α} (h : ∀ i a, R a (f i a))
    (xs : List α) : Forall₂ R xs (xs.mapIdx f) := by
  induction xs generalizing f with
  | nil => exact .nil
  | cons a xs ih =>
    rw [List.mapIdx_cons]
    exact .cons (h 0 a) (ih fun i ↦ h (i + 1))

theorem forall₂_set {α : Type} {R : α → α → Prop} {xs ys : List α} (h : Forall₂ R xs ys) {i : Nat}
    {a b : α} (hab : R a b) : Forall₂ R (xs.set i a) (ys.set i b) := by
  induction h generalizing i with
  | nil => exact .nil
  | cons hr h ih =>
    cases i with
    | zero => exact .cons hab h
    | succ i => exact .cons hr ih

theorem exists_of_forall₂ {α : Type} {R : α → α → Prop} {xs ys : List α} (h : Forall₂ R xs ys)
    {b : α} (hb : b ∈ ys) : ∃ a ∈ xs, R a b := by
  induction h with
  | nil => exact absurd hb List.not_mem_nil
  | cons hr h ih =>
    rcases List.mem_cons.1 hb with rfl | hb
    · exact ⟨_, List.mem_cons_self, hr⟩
    · obtain ⟨a, ha, hr⟩ := ih hb
      exact ⟨a, List.mem_cons_of_mem _ ha, hr⟩

theorem map_eq_of_forall₂ {α β : Type} {R : α → α → Prop} {g : α → β} (hg : ∀ a b, R a b → g b = g a)
    {xs ys : List α} (h : Forall₂ R xs ys) : ys.map g = xs.map g := by
  induction h with
  | nil => rfl
  | cons hr h ih => rw [List.map_cons, List.map_cons, hg _ _ hr, ih]

theorem map_mapIdx_of_eq {α β : Type} {g : α → β} {f : Nat → α → α} (h : ∀ i a, g (f i a) = g a)
    (xs : List α) : (xs.mapIdx f).map g = xs.map g :=
  map_eq_of_forall₂ (R := fun a b ↦ g b = g a) (fun _ _ ↦ id) (forall₂_mapIdx h xs)

theorem exists_getElem?_of_map_eq {α β : Type} {g : α → β} {xs ys : List α}
    (h : ys.map g = xs.map g) {i : Nat} {b : α} (hb : ys[i]? = some b) :
    ∃ a, xs[i]? = some a ∧ g a = g b := by
  have hi : (xs.map g)[i]? = some (g b) := by rw [← h, List.getElem?_map, hb, Option.map_some]
  rw [List.getElem?_map] at hi
  exact Option.map_eq_some_iff.1 hi

namespace Review

variable {ε ν : Type} {l l' : Review ε ν} {R : Row ε ν → Row ε ν → Prop}

theorem getElem?_setRow {i : Nat} {r : Row ε ν} (hr : l.rows[i]? = some r) (r' : Row ε ν) :
    (l.setRow i r').rows[i]? = some r' := by
  obtain ⟨hi, -⟩ := List.getElem?_eq_some_iff.1 hr
  exact List.getElem?_set_self hi

theorem setRow_self {i : Nat} {r : Row ε ν} (hr : l.rows[i]? = some r) : l.setRow i r = l := by
  obtain ⟨hi, rfl⟩ := List.getElem?_eq_some_iff.1 hr
  simp only [setRow, List.set_getElem_self]

theorem map_setRow
    {α : Type} {g : Row ε ν → α} {i : Nat} {r r' : Row ε ν} (hr : l.rows[i]? = some r)
    (hg : g r' = g r) : (l.setRow i r').rows.map g = l.rows.map g := by
  have hself : (l.setRow i r).rows.map g = l.rows.map g := by rw [setRow_self hr]
  rw [setRow, List.map_set] at hself ⊢
  rwa [hg]

theorem forall₂_setRow (hR : ∀ r, R r r) {i : Nat} {r r' : Row ε ν} (hr : l.rows[i]? = some r)
    (h : R r r') : Forall₂ R l.rows (l.setRow i r').rows := by
  have hset := forall₂_set (List.forall₂_same.2 fun r _ ↦ hR r : Forall₂ R l.rows l.rows) h (i := i)
  have hself : l.rows.set i r = l.rows := congrArg Review.rows (setRow_self hr)
  rwa [hself] at hset

theorem forall₂_forRows {f : Row ε ν → ViewerSource ν → Row ε ν × ViewerSource ν × List Notice}
    (hf : ∀ r source, R r (f r source).1) (rows : List (Row ε ν)) (source : ViewerSource ν) :
    Forall₂ R rows (forRows f rows source).1 := by
  induction rows generalizing source with
  | nil => exact .nil
  | cons r rows ih => exact .cons (hf r source) (ih _)

theorem select_eq (l : Review ε ν) (position : Nat) :
    l.select position = syncFocus { l with selected := min position (l.rows.length - 1) } := by
  unfold select
  split
  · next h =>
    have hrows : l.rows = [] := List.isEmpty_iff.1 h
    simp [syncFocus, hrows]
  · rfl

theorem getElem?_syncFocus (l : Review ε ν) (i : Nat) : l.syncFocus.rows[i]? =
    l.rows[i]?.map fun r ↦ { r with focused := i == l.selected } := by
  simp [syncFocus]

theorem map_syncFocus {α : Type} {g : Row ε ν → α}
    (hg : ∀ (r : Row ε ν) focused, g { r with focused } = g r) (l : Review ε ν) :
    l.syncFocus.rows.map g = l.rows.map g :=
  map_mapIdx_of_eq (fun i r ↦ hg r (i == l.selected)) l.rows

theorem map_select {α : Type} {g : Row ε ν → α}
    (hg : ∀ (r : Row ε ν) focused, g { r with focused } = g r) (l : Review ε ν) (position : Nat) :
    (l.select position).rows.map g = l.rows.map g := by
  rw [select_eq]
  exact map_syncFocus hg _

def before (removed i : Nat) : Nat := if i < removed then i else i + 1

theorem getElem?_eraseIdx {α : Type} (xs : List α) (removed i : Nat) :
    (xs.eraseIdx removed)[i]? = xs[before removed i]? := by
  rw [List.getElem?_eraseIdx, before]
  split <;> rfl

def without (l : Review ε ν) (removed : Nat) : Review ε ν :=
  { l with
    rows := (l.rows.eraseIdx removed).mapIdx fun i r ↦
      if removed ≤ i then { r with position := i } else r
    pending := pendingWithout removed l.pending }

theorem getElem?_without (l : Review ε ν) (removed i : Nat) : (l.without removed).rows[i]? =
    l.rows[before removed i]?.map fun r ↦ if removed ≤ i then { r with position := i } else r := by
  rw [without, List.getElem?_mapIdx, getElem?_eraseIdx]

theorem map_without {α : Type} {g : Row ε ν → α}
    (hg : ∀ (r : Row ε ν) position, g { r with position } = g r) (l : Review ε ν) (removed : Nat) :
    (l.without removed).rows.map g = (l.rows.map g).eraseIdx removed := by
  rw [List.eraseIdx_map]
  exact map_mapIdx_of_eq (fun i r ↦ by split <;> simp only [hg]) (l.rows.eraseIdx removed)

def settled (positions : List Nat) (rows : List (Row ε ν)) : List (Row ε ν) :=
  rows.mapIdx fun i r ↦ if i ∈ positions then { r with loading := false } else r

theorem settled_nil (rows : List (Row ε ν)) : settled [] rows = rows := by
  refine List.ext_getElem? fun i ↦ ?_
  simp [settled]

theorem settled_cons (i : Nat) (positions : List Nat) (rows : List (Row ε ν)) :
    settled (i :: positions) rows = settled positions (settled [i] rows) := by
  refine List.ext_getElem? fun j ↦ ?_
  simp only [settled, List.getElem?_mapIdx, Option.map_map]
  congr 1
  funext r
  by_cases hj : j = i <;> simp [hj]

theorem finishApply_eq (l : Review ε ν) (position : Nat) : ∃ status,
    l.finishApply position = { l with rows := settled [position] l.rows, status } := by
  unfold finishApply
  split
  · next h =>
    refine ⟨l.status, ?_⟩
    have hrows : settled [position] l.rows = l.rows := by
      refine List.ext_getElem? fun i ↦ ?_
      rcases eq_or_ne i position with rfl | hi
      · simp [settled, h]
      · simp [settled, hi]
    rw [hrows]
  · next r h =>
    refine ⟨some (.applied r.title), ?_⟩
    have hrows : settled [position] l.rows = l.rows.set position { r with loading := false } := by
      refine List.ext_getElem? fun i ↦ ?_
      rcases eq_or_ne i position with rfl | hi
      · obtain ⟨hi, -⟩ := List.getElem?_eq_some_iff.1 h
        simp [settled, h, List.getElem?_set_self hi]
      · simp [settled, hi, List.getElem?_set_ne hi.symm]
    rw [hrows, setRow]

theorem finishApplies_eq (ps : List PendingApply) (l : Review ε ν) : ∃ status,
    ps.foldl (fun l p ↦ l.finishApply p.position) l =
      { l with rows := settled (ps.map (·.position)) l.rows, status } := by
  induction ps generalizing l with
  | nil => exact ⟨l.status, by simp only [List.map_nil, settled_nil, List.foldl_nil]⟩
  | cons p ps ih =>
    obtain ⟨status, h⟩ := l.finishApply_eq p.position
    obtain ⟨status', h'⟩ := ih (l.finishApply p.position)
    have hrows := settled_cons p.position (ps.map (·.position)) l.rows
    exact ⟨status', by rw [List.foldl_cons, h', h, List.map_cons, hrows]⟩

def drawnPositions (l : Review ε ν) : List Nat := (l.pending.filter (·.drawn)).map (·.position)

theorem update_eq (hR : ∀ r source, R r (Row.loadViewer r source).1) (l : Review ε ν) :
    ∃ rows source status, Forall₂ R (settled l.drawnPositions l.rows) rows ∧
      l.update.1 = { l with rows, source, status, pending := l.pending.filter (!·.drawn) } := by
  obtain ⟨status, h⟩ := finishApplies_eq (l.pending.filter (·.drawn))
    { l with pending := l.pending.filter (!·.drawn) }
  refine ⟨_, (forRows Row.loadViewer (settled l.drawnPositions l.rows) l.source).2.1, status,
    forall₂_forRows hR _ l.source, ?_⟩
  simp only [update, h, mapRows]
  rfl

variable [Viewer ν] [PayloadEditor ε]

theorem forall₂_drawRows (hR : ∀ r source a c, R r (Row.draw r source a c).row) (hr : ∀ r, R r r)
    {source : ViewerSource ν} {x y width bottom : Nat} {c : Canvas} {rows : List (Row ε ν)}
    {d : Drawing ε ν} (h : drawRows? source x y width bottom c rows = some d) :
    Forall₂ R rows d.rows := by
  induction rows generalizing source y c d with
  | nil =>
    obtain rfl := Option.some.inj h
    exact .nil
  | cons r rows ih =>
    simp only [drawRows?] at h
    split at h
    · obtain rfl := Option.some.inj h
      exact List.forall₂_same.2 fun r _ ↦ hr r
    · cases hh : r.height? width with
      | none => simp [hh] at h
      | some wanted =>
        simp only [hh, Option.map_eq_some_iff] at h
        obtain ⟨d', hd', rfl⟩ := h
        exact .cons (hR r _ _ _) (ih hd')

theorem scrolled_eq {width height : Nat} (h : l.scrolled? width height = some l') :
    ∃ offset, l' = { l with offset } := by
  unfold scrolled? at h
  split at h
  · exact ⟨_, (Option.some.inj h).symm⟩
  · obtain ⟨offset, -, rfl⟩ := Option.map_eq_some_iff.1 h
    exact ⟨offset, rfl⟩

theorem draw_eq (hR : ∀ r source a c, R r (Row.draw r source a c).row) (hr : ∀ r, R r r) {a : Area}
    {c : Canvas} {f : Frame ε ν} (h : l.draw? a c = some f) :
    ∃ rows source offset, Forall₂ R l.rows rows ∧ f.review =
      { l with rows, source, offset, pending := l.pending.map ({ · with drawn := true }) } := by
  obtain ⟨f', hf', rfl⟩ := Option.map_eq_some_iff.1 h
  unfold drawList? at hf'
  split at hf'
  · obtain rfl := Option.some.inj hf'
    exact ⟨l.rows, l.source, l.offset, List.forall₂_same.2 fun r _ ↦ hr r, rfl⟩
  · split at hf'
    · exact absurd hf' nofun
    · next m hm =>
      obtain ⟨offset, rfl⟩ := scrolled_eq hm
      obtain ⟨d, hd, rfl⟩ := Option.map_eq_some_iff.1 hf'
      refine ⟨l.rows.take offset ++ d.rows, d.source, offset, ?_, rfl⟩
      have htaken : Forall₂ R (l.rows.take offset) (l.rows.take offset) :=
        List.forall₂_same.2 fun r _ ↦ hr r
      have hrows : Forall₂ R (l.rows.take offset ++ l.rows.drop offset)
          (l.rows.take offset ++ d.rows) := List.rel_append htaken (forall₂_drawRows hR hr hd)
      rwa [List.take_append_drop] at hrows

end Review

end SuggestionReview
