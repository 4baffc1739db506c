import Mathlib.Data.List.Nodup
import SuggestionReview.Proofs.Review.Operation
import SuggestionReview.Proofs.Row.Measure

namespace SuggestionReview

open List (Forall₂)
open Row (Measure Shown Worked)

namespace Review

variable {ε ν : Type} {l l' : Review ε ν}

def applying (l : Review ε ν) : List Nat := l.pending.map (·.position)

structure Placed (l : Review ε ν) : Prop where
  position : ∀ i (r : Row ε ν), l.rows[i]? = some r → r.position = i
  loading : ∀ i (r : Row ε ν), l.rows[i]? = some r → (r.loading = true ↔ i ∈ l.applying)
  distinct : l.applying.Nodup
  inRange : ∀ i ∈ l.applying, i < l.rows.length

/-- Whether the rows know as well which of them is selected. -/
structure Coherent (l : Review ε ν) : Prop extends Placed l where
  selected : l.selected < l.rows.length ∨ l.rows.length = 0 ∧ l.selected = 0
  focused : ∀ i (r : Row ε ν), l.rows[i]? = some r → (r.focused = true ↔ i = l.selected)

theorem Placed.of_standings (h : l.Placed)
    (hrows : l'.rows.map Row.standing = l.rows.map Row.standing) (hp : l'.applying = l.applying) :
    l'.Placed := by
  have hlength : l'.rows.length = l.rows.length := by simpa using congrArg List.length hrows
  refine ⟨fun i r' hr' ↦ ?_, fun i r' hr' ↦ ?_, hp ▸ h.distinct, fun i hi ↦ ?_⟩
  · obtain ⟨r, hr, hs⟩ := exists_getElem?_of_map_eq hrows hr'
    exact (congrArg Standing.position hs).symm.trans (h.position i r hr)
  · obtain ⟨r, hr, hs⟩ := exists_getElem?_of_map_eq hrows hr'
    have hloading : r.loading = r'.loading := congrArg Standing.loading hs
    rw [← hloading, hp]
    exact h.loading i r hr
  · rw [hlength]
    exact h.inRange i (hp ▸ hi)

theorem Coherent.of_rows (h : l.Coherent) (hlength : l'.rows.length = l.rows.length)
    (hs : l'.selected = l.selected) (hdistinct : l'.applying.Nodup)
    (hrange : ∀ i ∈ l'.applying, i < l.rows.length)
    (hrow : ∀ (i : Nat) (r' : Row ε ν), l'.rows[i]? = some r' → ∃ r, l.rows[i]? = some r ∧
      r'.position = r.position ∧ r'.focused = r.focused ∧ (r'.loading = true ↔ i ∈ l'.applying)) :
    l'.Coherent := by
  refine ⟨⟨fun i r' hr' ↦ ?_, fun i r' hr' ↦ ?_, hdistinct, hlength ▸ hrange⟩, ?_, fun i r' hr' ↦ ?_⟩
  · obtain ⟨r, hr, hposition, -⟩ := hrow i r' hr'
    exact hposition.trans (h.position i r hr)
  · obtain ⟨r, -, -, -, hloading⟩ := hrow i r' hr'
    exact hloading
  · rw [hlength, hs]
    exact h.selected
  · obtain ⟨r, hr, -, hfocused, -⟩ := hrow i r' hr'
    rw [hfocused, hs]
    exact h.focused i r hr

theorem Coherent.of_standings (h : l.Coherent)
    (hrows : l'.rows.map Row.standing = l.rows.map Row.standing) (hs : l'.selected = l.selected)
    (hp : l'.applying = l.applying) : l'.Coherent := by
  have hlength : l'.rows.length = l.rows.length := by simpa using congrArg List.length hrows
  refine h.of_rows hlength hs (hp ▸ h.distinct) (hp ▸ h.inRange) fun i r' hr' ↦ ?_
  obtain ⟨r, hr, hstanding⟩ := exists_getElem?_of_map_eq hrows hr'
  obtain ⟨hposition, hfocused, hloading⟩ := Standing.mk.inj hstanding
  exact ⟨r, hr, hposition.symm, hfocused.symm, hp ▸ hloading ▸ h.loading i r hr⟩

theorem Placed.syncFocus (h : l.Placed)
    (hs : l.selected < l.rows.length ∨ l.rows.length = 0 ∧ l.selected = 0) :
    l.syncFocus.Coherent := by
  have hlength : l.syncFocus.rows.length = l.rows.length := by simp [Review.syncFocus]
  refine ⟨⟨fun i r hr ↦ ?_, fun i r hr ↦ ?_, h.distinct, fun i hi ↦ hlength ▸ h.inRange i hi⟩, ?_,
    fun i r hr ↦ ?_⟩
  · rw [getElem?_syncFocus] at hr
    obtain ⟨r₀, hr₀, rfl⟩ := Option.map_eq_some_iff.1 hr
    exact h.position i r₀ hr₀
  · rw [getElem?_syncFocus] at hr
    obtain ⟨r₀, hr₀, rfl⟩ := Option.map_eq_some_iff.1 hr
    exact h.loading i r₀ hr₀
  · rw [hlength]
    exact hs
  · rw [getElem?_syncFocus] at hr
    obtain ⟨r₀, -, rfl⟩ := Option.map_eq_some_iff.1 hr
    exact beq_iff_eq

theorem Placed.select (h : l.Placed) (position : Nat) : (l.select position).Coherent := by
  rw [select_eq]
  refine Placed.syncFocus ⟨h.position, h.loading, h.distinct, h.inRange⟩ ?_
  simp only
  omega

theorem mem_applying_apply {i : Nat} {r : Row ε ν} (j : Nat) :
    j ∈ (l.apply i r).1.applying ↔ j ∈ l.applying ∨ j = i := by
  simp only [apply, applying]
  split
  · next h =>
    have hi : i ∈ l.pending.map (·.position) := by simpa using h
    exact ⟨.inl, fun hj ↦ hj.elim id (· ▸ hi)⟩
  · simp

theorem Coherent.apply (h : l.Coherent) {i : Nat} {r : Row ε ν} (hr : l.rows[i]? = some r) :
    (l.apply i r).1.Coherent := by
  refine h.of_rows List.length_set rfl ?_ (fun j hj ↦ ?_) fun j r' hr' ↦ ?_
  · simp only [Review.apply, applying]
    split
    · exact h.distinct
    · next hnew =>
      have hnew : i ∉ l.pending.map (·.position) := by simpa using hnew
      rw [List.map_append]
      exact h.distinct.append (List.nodup_singleton i) (List.disjoint_singleton.2 hnew)
  · rcases (mem_applying_apply j).1 hj with hj | rfl
    · exact h.inRange j hj
    · exact (List.getElem?_eq_some_iff.1 hr).1
  · rw [mem_applying_apply]
    rcases eq_or_ne i j with rfl | hj
    · obtain rfl := Option.some.inj ((getElem?_setRow hr _).symm.trans hr')
      exact ⟨r, hr, rfl, rfl, by simp⟩
    · have hr' : l.rows[j]? = some r' := (List.getElem?_set_ne hj).symm.trans hr'
      exact ⟨r', hr', rfl, rfl, by simpa [hj.symm] using h.loading j r' hr'⟩

theorem mem_pendingWithout {removed : Nat} {ps : List PendingApply} {p : PendingApply} :
    p ∈ pendingWithout removed ps ↔ ⟨before removed p.position, p.drawn⟩ ∈ ps := by
  simp only [pendingWithout, List.mem_map, List.mem_filter]
  constructor
  · rintro ⟨q, ⟨hq, hne⟩, rfl⟩
    have hne : q.position ≠ removed := of_decide_eq_true hne
    split
    · next hlt =>
      have hbefore : before removed (q.position - 1) = q.position := by unfold before; grind
      rwa [hbefore]
    · next hlt =>
      have hbefore : before removed q.position = q.position := by unfold before; grind
      rwa [hbefore]
  · intro hp
    rcases Nat.lt_or_ge p.position removed with hlt | hle
    · rw [before, if_pos hlt] at hp
      exact ⟨p, ⟨hp, by grind⟩, if_neg (by omega)⟩
    · rw [before, if_neg (by omega)] at hp
      exact ⟨_, ⟨hp, by grind⟩, if_pos (by grind)⟩

theorem mem_applying_iff {i : Nat} : i ∈ l.applying ↔ ∃ drawn, ⟨i, drawn⟩ ∈ l.pending := by
  constructor
  · intro hi
    obtain ⟨p, hp, rfl⟩ := List.mem_map.1 hi
    exact ⟨p.drawn, hp⟩
  · rintro ⟨drawn, hp⟩
    exact List.mem_map.2 ⟨_, hp, rfl⟩

theorem map_before_pendingWithout (removed : Nat) (ps : List PendingApply) :
    ((pendingWithout removed ps).map (·.position)).map (before removed) =
      (ps.map (·.position)).filter (· ≠ removed) := by
  rw [pendingWithout, List.map_map, List.map_map, List.filter_map]
  refine List.map_congr_left fun p hp ↦ ?_
  have hne : p.position ≠ removed := by simpa using (List.mem_filter.1 hp).2
  simp only [Function.comp_apply, before]
  grind

theorem mem_applying_without {removed i : Nat} :
    i ∈ (l.without removed).applying ↔ before removed i ∈ l.applying := by
  simp only [mem_applying_iff, without, mem_pendingWithout]

theorem Placed.rows_without (h : l.Placed) (i : Nat) :
    (l.without i).rows = (l.rows.eraseIdx i).mapIdx fun j r ↦ { r with position := j } := by
  refine List.ext_getElem? fun j ↦ ?_
  rw [getElem?_without, List.getElem?_mapIdx, getElem?_eraseIdx]
  cases hr : l.rows[before i j]? with
  | none => rfl
  | some r =>
    by_cases hij : i ≤ j
    · simp only [Option.map_some, if_pos hij]
    -- a row above the removed one is told nothing, and knows its position already
    · have hbefore : before i j = j := if_pos (by omega)
      obtain rfl := h.position j r (hbefore ▸ hr)
      simp only [Option.map_some, if_neg hij]

theorem Placed.without (h : l.Placed) (removed : Nat) : (l.without removed).Placed := by
  have hrow : ∀ i (r' : Row ε ν), (l.without removed).rows[i]? = some r' → ∃ r,
      l.rows[before removed i]? = some r ∧ r' = { r with position := i } := by
    intro i r' hr'
    rw [h.rows_without, List.getElem?_mapIdx, getElem?_eraseIdx] at hr'
    obtain ⟨r, hr, rfl⟩ := Option.map_eq_some_iff.1 hr'
    exact ⟨r, hr, rfl⟩
  refine ⟨fun i r' hr' ↦ ?_, fun i r' hr' ↦ ?_, ?_, fun i hi ↦ ?_⟩
  · obtain ⟨r, -, rfl⟩ := hrow i r' hr'
    rfl
  · obtain ⟨r, hr, rfl⟩ := hrow i r' hr'
    exact (h.loading _ r hr).trans mem_applying_without.symm
  -- moving back up is injective, so positions that differ before differ now
  · have hleft := h.distinct.filter (· ≠ removed)
    rw [applying, ← map_before_pendingWithout] at hleft
    exact hleft.of_map _
  · have hi := h.inRange _ (mem_applying_without.1 hi)
    simp only [Review.without, List.length_mapIdx, List.length_eraseIdx, before] at hi ⊢
    grind

theorem Placed.dismiss (h : l.Placed) (removed : Nat) (r : Row ε ν) :
    (l.dismiss removed r).1.Coherent :=
  ((h.without removed).select l.selected).of_standings rfl rfl rfl

theorem mem_waiting_iff {ps : List PendingApply} (h : (ps.map (·.position)).Nodup) {i : Nat} :
    i ∈ (ps.filter (!·.drawn)).map (·.position) ↔
      i ∈ ps.map (·.position) ∧ i ∉ (ps.filter (·.drawn)).map (·.position) := by
  have hinj := List.inj_on_of_nodup_map h
  simp only [List.mem_map, List.mem_filter]
  constructor
  · rintro ⟨p, ⟨hp, hdrawn⟩, rfl⟩
    refine ⟨⟨p, hp, rfl⟩, ?_⟩
    rintro ⟨q, ⟨hq, hdrawn'⟩, hpq⟩
    obtain rfl := hinj hq hp hpq
    simp [hdrawn'] at hdrawn
  · rintro ⟨⟨p, hp, rfl⟩, hnot⟩
    refine ⟨p, ⟨hp, ?_⟩, rfl⟩
    cases hdrawn : p.drawn with
    | false => rfl
    | true => exact absurd ⟨p, ⟨hp, hdrawn⟩, rfl⟩ hnot

theorem Coherent.settle (h : l.Coherent) :
    Coherent { l with
      rows := settled l.drawnPositions l.rows
      pending := l.pending.filter (!·.drawn) } := by
  have hwaiting := @mem_waiting_iff l.pending h.distinct
  refine h.of_rows List.length_mapIdx rfl (h.distinct.sublist (List.filter_sublist.map _))
    (fun i hi ↦ h.inRange i (hwaiting.1 hi).1) fun i r' hr' ↦ ?_
  simp only [settled, List.getElem?_mapIdx] at hr'
  obtain ⟨r, hr, rfl⟩ := Option.map_eq_some_iff.1 hr'
  have hloading := h.loading i r hr
  refine ⟨r, hr, by split <;> rfl, by split <;> rfl, Iff.trans ?_ hwaiting.symm⟩
  split
  · next hdrawn => exact iff_of_false Bool.false_ne_true fun hi ↦ hi.2 hdrawn
  · next hdrawn => exact hloading.trans ⟨fun hi ↦ ⟨hi, hdrawn⟩, (·.1)⟩

theorem Coherent.update (h : l.Coherent) : l.update.1.Coherent := by
  obtain ⟨rows, source, status, hrows, heq⟩ := update_eq Row.shown_loadViewer l
  rw [heq]
  have hmap := map_eq_of_forall₂ (g := Row.standing) (fun _ _ ↦ Shown.standing) hrows
  exact h.settle.of_standings hmap rfl rfl

theorem Coherent.setRow (h : l.Coherent) {i : Nat} {r r' : Row ε ν} (hr : l.rows[i]? = some r)
    (hs : r'.standing = r.standing) : (l.setRow i r').Coherent :=
  h.of_standings (map_setRow hr hs) rfl rfl

theorem rowsBetween?_eq_some {first last : Nat} (hf : first ≤ last) (hl : last < l.rows.length) :
    l.rowsBetween? first last = some ((l.rows.take (last + 1)).drop first) := by
  simp only [rowsBetween?, Bool.and_eq_true, decide_eq_true_eq]
  exact if_pos ⟨by omega, hl⟩

theorem placed_newRows (f : SuggestionFile) (palette : Palette) (b : Bindings) (editor : ε)
    (h : l.rows = f.suggestions.mapIdx (newRow f palette b editor)) (hp : l.pending = []) :
    l.Placed := by
  have hrow : ∀ i (r : Row ε ν), l.rows[i]? = some r → r.position = i ∧ r.loading = false := by
    intro i r hr
    rw [h, List.getElem?_mapIdx] at hr
    obtain ⟨s, -, rfl⟩ := Option.map_eq_some_iff.1 hr
    exact ⟨rfl, rfl⟩
  have hnone : l.applying = [] := by rw [applying, hp, List.map_nil]
  refine ⟨fun i r hr ↦ (hrow i r hr).1, fun i r hr ↦ ?_, hnone ▸ List.nodup_nil, ?_⟩
  · simp [(hrow i r hr).2, hnone]
  · simp [hnone]

theorem coherent_ofFile [Viewer ν]
    (f : SuggestionFile) (palette : Palette) (b : Bindings) (editor : ε) :
    ((ofFile f palette b editor).1 : Review ε ν).Coherent := by
  let new : Review ε ν := { (ofFile f palette b editor).1 with
    rows := f.suggestions.mapIdx (newRow f palette b editor) }
  have hnew : new.Placed := placed_newRows f palette b editor rfl rfl
  have hrows := forall₂_forRows Row.shown_loadViewer new.rows (.builtin 0)
  have hmap := map_eq_of_forall₂ (g := Row.standing) (fun _ _ ↦ Shown.standing) hrows
  let loaded : Review ε ν := { new with rows := (forRows Row.loadViewer new.rows (.builtin 0)).1 }
  have hloaded : loaded.Placed := hnew.of_standings hmap rfl
  have hselected : loaded.selected < loaded.rows.length ∨
      loaded.rows.length = 0 ∧ loaded.selected = 0 :=
    (Nat.eq_zero_or_pos loaded.rows.length).symm.imp id (⟨·, rfl⟩)
  exact (hloaded.syncFocus hselected).of_standings rfl rfl rfl

theorem Coherent.choose (h : l.Coherent) (c : Choice ν) : (l.choose c).Coherent := by
  have hrows := l.map_choose (g := Row.standing) (fun _ _ ↦ Shown.standing) (fun _ _ _ _ ↦ rfl) c
  cases c <;> exact h.of_standings hrows rfl rfl

theorem coherent_built [Viewer ν]
    (f : SuggestionFile) (palette : Palette) (b : Bindings) (editor : ε)
    (choices : List (Choice ν)) : (built f palette b editor choices).Coherent :=
  List.foldlRecOn choices choose (coherent_ofFile f palette b editor) fun _ h c _ ↦ h.choose c

variable [PayloadEditor ε]

theorem Coherent.handle (h : l.Coherent) (i : Nat) (e : RowEvent) : (l.handle i e).1.Coherent := by
  unfold Review.handle
  split
  · exact h
  · next r hr =>
    cases e with
    | apply => exact h.apply hr
    | dismiss => exact h.toPlaced.dismiss i r
    | navigate column =>
      simp only [navigate]
      split <;> exact h.of_standings rfl rfl rfl
    | save p =>
      exact (h.setRow hr (r.standing_setProposal _ l.source)).of_standings rfl rfl rfl

variable [Viewer ν]

theorem Coherent.draw (h : l.Coherent) {a : Area} {c : Canvas} {f : Frame ε ν}
    (hf : l.draw? a c = some f) : f.review.Coherent := by
  obtain ⟨rows, source, offset, hrows, heq⟩ := draw_eq Row.shown_draw .refl hf
  have hmap := map_eq_of_forall₂ (g := Row.standing) (fun _ _ ↦ Shown.standing) hrows
  rw [heq]
  exact h.of_standings hmap rfl (by simp [applying])

theorem Coherent.perform {o : Operation ν} (h : l.Coherent) (hl : l.perform? o = some l') :
    l'.Coherent := by
  cases performed_of_perform? hl with
  | still => exact h.of_standings rfl rfl rfl
  | moved position => exact h.toPlaced.select position
  | worked r r' hr hw => exact h.setRow hr hw.standing
  | answered i e r r' hr hw => exact (h.setRow hr hw.standing).handle i e
  | ticked => exact h.update
  | drawn f hf => exact h.draw hf

variable {a : Area} {width height : Nat} {heights : List Nat}

theorem isSome_totalHeight? {rows : List (Row ε ν)} (h : Measure width rows heights)
    (hlt : total id heights < 65536) : (totalHeight? width rows).isSome :=
  Option.isSome_of_eq_some (totalHeight?_eq_some_iff.2 ⟨heights, h, rfl, hlt⟩)

theorem isSome_offsetFrom? (hs : l.selected < l.rows.length) (h : Measure width l.rows heights)
    (hlt : total id heights < 65536) (n : Nat) {offset : Nat} (ho : offset ≤ l.selected) :
    (l.offsetFrom? width height n offset).isSome := by
  induction n generalizing offset with
  | zero => rfl
  | succ n ih =>
    have hread := (h.take (l.selected + 1)).drop offset
    have hsublist : ((heights.take (l.selected + 1)).drop offset).Sublist heights :=
      (List.drop_sublist _ _).trans (List.take_sublist _ _)
    have hsum : total id ((heights.take (l.selected + 1)).drop offset) < 65536 :=
      Nat.lt_of_le_of_lt (total_le_of_sublist hsublist) hlt
    obtain ⟨used, hused⟩ := Option.isSome_iff_exists.1 (isSome_totalHeight? hread hsum)
    simp only [offsetFrom?, rowsBetween?_eq_some ho hs, Option.bind_some, hused]
    split
    · rfl
    · next hmore => exact ih (by simp at hmore; omega)

theorem isSome_drawRows? {source : ViewerSource ν} {x y bottom : Nat} {c : Canvas}
    {rows : List (Row ε ν)} (h : Measure width rows heights) :
    (drawRows? source x y width bottom c rows).isSome := by
  induction rows generalizing source y c heights with
  | nil => rfl
  | cons r rows ih =>
    cases heights with
    | nil => exact absurd h Row.not_measure_cons_nil
    | cons wanted heights =>
      obtain ⟨hwanted, hrows⟩ := Row.measure_cons.1 h
      unfold drawRows?
      split
      · rfl
      · simp only [hwanted, Option.isSome_map]
        exact ih hrows

/-- A frame is drawn whenever the heights can be added up: no row is read that is not there. -/
theorem Coherent.isSome_draw? (hl : l.Coherent) (h : Measure a.width l.rows heights)
    (hlt : total id heights < 65536) (c : Canvas) : (l.draw? a c).isSome := by
  simp only [draw?, drawList?, Option.isSome_map]
  split
  · rfl
  · next hrows =>
    have hs : l.selected < l.rows.length :=
      hl.selected.resolve_right fun hnil ↦
        hrows (List.isEmpty_iff.2 (List.length_eq_zero_iff.1 hnil.1))
    have hscrolled : (l.scrolled? (a.splitBottom 1).1.width (a.splitBottom 1).1.height).isSome := by
      unfold scrolled?
      split
      · rfl
      · rw [Option.isSome_map]
        exact isSome_offsetFrom? hs h hlt _ (by omega)
    obtain ⟨m, hm⟩ := Option.isSome_iff_exists.1 hscrolled
    obtain ⟨offset, rfl⟩ := scrolled_eq hm
    simp only [hm, Option.isSome_map]
    exact isSome_drawRows? (h.drop offset)

/-- Whatever is done to a review, its rows and it agree, and no operation reads a row that is not
there: the rows from any offset to the selected one can be read, and an operation that cannot be
finished draws a view that does not say how many rows it asks for, or more rows than can be counted. -/
theorem coherent_performAll? {f : SuggestionFile} {palette : Palette} {b : Bindings} {editor : ε}
    {choices : List (Choice ν)} {os : List (Operation ν)}
    (h : (built f palette b editor choices).performAll? os = some l) :
    l.Coherent ∧
    (∀ offset ≤ l.selected, l.rows ≠ [] → (l.rowsBetween? offset l.selected).isSome) ∧
    ∀ o, l.perform? o = none → ∃ a c, o = .happens (.frame a c) ∧
      ((∃ r ∈ l.rows, r.Silent a.width) ∨ ∃ wanted : List Nat,
        l.rows.map (·.wanted? a.width) = wanted.map some ∧ 65536 ≤ total id wanted) := by
  have hl : l.Coherent := performAll?_invariant (fun _ _ _ hp hl ↦ hl.perform hp)
    (coherent_built f palette b editor choices) h
  refine ⟨hl, fun offset ho hrows ↦ ?_, fun o ho ↦ ?_⟩
  · have hs : l.selected < l.rows.length :=
      hl.selected.resolve_right fun hnil ↦ hrows (List.length_eq_zero_iff.1 hnil.1)
    rw [rowsBetween?_eq_some ho hs]
    rfl
  · cases o with
    | event | deliver => exact absurd ho (Option.some_ne_none _)
    | happens happening =>
      cases happening with
      | key | tick => exact absurd ho (Option.some_ne_none _)
      | frame a c =>
        refine ⟨a, c, rfl, or_iff_not_imp_left.2 fun hsilent ↦ ?_⟩
        obtain ⟨wanted, hwanted⟩ := Row.exists_wanted fun r hr hs ↦ hsilent ⟨r, hr, hs⟩
        refine ⟨wanted, hwanted, Nat.not_lt.1 fun hlt ↦ ?_⟩
        have hdraw := hl.isSome_draw? (Row.measure_of_wanted hwanted hlt) hlt c
        rw [Option.map_eq_none_iff.1 ho] at hdraw
        exact Bool.false_ne_true hdraw

/-- The last of three rows is being applied when the first one is dismissed. -/
theorem coherent_performAll?_dismissed :
    ∃ l ∈ (built (.sums 3) .dark .standard DocumentEditor.empty [.numbers true]).performAll?
        [.event 2 .apply, .happens (.key (.press (.char 'x') .none)), .event 9 .dismiss,
          .happens (.frame ⟨0, 0, 20, 5⟩ (.blank 20 5))],
      l.rows.length = 2 ∧ l.applying = [1] ∧ l.Coherent ∧
        (l.rowsBetween? 0 l.selected).isSome := by
  have hrun : ∃ l ∈ performAll? (built (.sums 3) .dark .standard DocumentEditor.empty [.numbers true])
      [.event 2 .apply, .happens (.key (.press (.char 'x') .none)), .event 9 .dismiss,
        .happens (.frame ⟨0, 0, 20, 5⟩ (.blank 20 5))],
      l.rows.length = 2 ∧ l.applying = [1] := by decide +kernel
  obtain ⟨l, hl, hrows, happlying⟩ := hrun
  obtain ⟨hcoherent, hread, -⟩ := coherent_performAll? hl
  have hne : l.rows ≠ [] := List.ne_nil_of_length_pos (by omega)
  exact ⟨l, hl, hrows, happlying, hcoherent, hread 0 (Nat.zero_le _) hne⟩

end Review

end SuggestionReview
