import SuggestionReview.Proofs.Review.Applying
import SuggestionReview.Proofs.Review.Scrolling

namespace SuggestionReview

open Row (Measure)

variable {ε ν : Type} [PayloadEditor ε] [Viewer ν]

namespace Review

variable {l : Review ε ν} {a : Area} {c : Canvas}

/-- Whether a frame draws the row at a position, on one line of the screen at least. -/
def Draws (l : Review ε ν) (a : Area) (c : Canvas) (i : Nat) : Prop :=
  ∃ f ∈ l.draw? a c, f.review.offset ≤ i ∧
    ∃ b ∈ ((listArea a).forRows (l.rows.drop f.review.offset))[i - f.review.offset]?, 0 < b.height

instance (l : Review ε ν) (a : Area) (c : Canvas) (i : Nat) : Decidable (l.Draws a c i) :=
  inferInstanceAs (Decidable (∃ f ∈ l.draw? a c, f.review.offset ≤ i ∧
    ∃ b ∈ ((listArea a).forRows (l.rows.drop f.review.offset))[i - f.review.offset]?, 0 < b.height))

/-- The selected row has an area when all rows up to it fit, and when it is the first one. -/
theorem FitsFrom.exists_area {offset : Nat} (h : l.FitsFrom a.width a.height offset)
    (ho : offset ≤ l.selected) (hs : l.selected < l.rows.length) :
    ∃ b, (a.forRows (l.rows.drop offset))[l.selected - offset]? = some b := by
  obtain ⟨heights, hheights, hfits⟩ := h
  have hlength : heights.length = l.selected + 1 - offset := by
    rw [hheights.length, List.length_drop, List.length_take]
    omega
  have hmeasure : Measure a.width ((l.rows.drop offset).take heights.length) heights := by
    rwa [hlength, ← List.drop_take]
  have hi : l.selected - offset < heights.length := by omega
  have hwanted := List.getElem?_eq_getElem hi
  have hpos : 1 ≤ heights[l.selected - offset] := hheights.one_le _ (List.getElem_mem hi)
  -- what is above the selected row leaves room for it
  have hsplit : total id (heights.take (l.selected - offset)) + heights[l.selected - offset] ≤
      total id heights := by
    calc total id (heights.take (l.selected - offset)) + heights[l.selected - offset]
        = total id (heights.take (l.selected - offset + 1)) := by
          rw [List.take_add_one, hwanted, total_append]
          rfl
      _ ≤ total id (heights.take (l.selected - offset + 1)) +
            total id (heights.drop (l.selected - offset + 1)) := Nat.le_add_right _ _
      _ = total id heights := by rw [← total_append, List.take_append_drop]
  exact ⟨_, (Area.getElem?_forRows hmeasure hwanted).trans (if_pos (by omega))⟩

theorem draws_selected {f : Frame ε ν} (hf : l.draw? a c = some f) (hs : l.selected < l.rows.length)
    (ha : 2 ≤ a.height) : l.Draws a c l.selected := by
  have hrows : l.rows ≠ [] := List.ne_nil_of_length_pos (Nat.zero_lt_of_lt hs)
  obtain ⟨hscrolled, hdrawn, -⟩ := shows_of_draw? hf hrows
  have hscrolls : l.ScrollsTo (listArea a).width (listArea a).height f.review.offset :=
    (scrollsTo_of_scrolled? hs hscrolled :)
  have hlines : 0 < (listArea a).height := by
    have hlist : (listArea a).height = min (a.height - min 1 a.height) a.height := rfl
    omega
  have harea : ∃ b, ((listArea a).forRows (l.rows.drop f.review.offset))[
      l.selected - f.review.offset]? = some b := by
    rcases hscrolls.fitsFrom with hfits | hfirst
    · exact hfits.exists_area hscrolls.le_selected hs
    · rw [hfirst, List.drop_eq_getElem_cons hs] at hdrawn
      rw [hfirst, Nat.sub_self, ← List.head?_eq_getElem?, List.drop_eq_getElem_cons hs]
      exact head?_forRows hlines hdrawn
  obtain ⟨b, hb⟩ := harea
  have hpos := (Area.stacked_forRows _ _).nonempty b (List.mem_of_getElem? hb)
  exact ⟨f, hf, hscrolls.le_selected, b, hb, hpos⟩

end Review

namespace Tracked

variable {t t' : Tracked ε ν} {o : Operation ν} {os : List (Operation ν)} {n : Nat}

theorem performAll?_append (t : Tracked ε ν) (os os' : List (Operation ν)) :
    t.performAll? (os ++ os') = (t.performAll? os).bind (performAll? · os') := by
  simp [performAll?, List.foldlM_append]

theorem performAll?_singleton (t : Tracked ε ν) (o : Operation ν) :
    t.performAll? [o] = t.perform? o := by
  simp [performAll?]

theorem names_sublist_perform (h : t.perform? o = some t') : t'.names.Sublist t.names := by
  obtain ⟨l, -, rfl⟩ := Option.map_eq_some_iff.1 h
  exact Review.remaining_sublist _ _

theorem names_sublist_performAll? (h : t.performAll? os = some t') : t'.names.Sublist t.names := by
  induction os generalizing t with
  | nil => exact Option.some.inj h ▸ .refl _
  | cons o os ih =>
    obtain ⟨m, hm, h⟩ := Option.bind_eq_some_iff.1 h
    exact (ih h).trans (names_sublist_perform hm)

def BusyAt (t : Tracked ε ν) (n i : Nat) : Prop :=
  t.names[i]? = some n ∧ ∃ r ∈ t.review.rows[i]?, r.loading = true

def Ends (t : Tracked ε ν) (n : Nat) : Prop :=
  ∃ i, t.BusyAt n i ∧ ∃ r ∈ t.review.update.1.rows[i]?, r.loading = false

def SeenBusy (t : Tracked ε ν) (n : Nat) (o : Operation ν) : Prop :=
  ∃ a c i, o = .happens (.frame a c) ∧ t.BusyAt n i ∧ t.review.Draws a c i

/-- Whether the row of a name was made busy in a run, has not had time since then to stop, and was
drawn. -/
def SeenSince (t : Tracked ε ν) (os : List (Operation ν)) (n : Nat) : Prop :=
  t.Sometime os fun m o rest ↦ m.Starts n o ∧ frameThenTick rest = false ∧
    ∃ m' ∈ m.perform? o, m'.Sometime rest fun m o _ ↦ m.SeenBusy n o

variable {f : SuggestionFile} {palette : Palette} {b : Bindings} {editor : ε}
  {choices : List (Choice ν)}

theorem Ends.busy (h : (new f palette b editor choices).performAll? os = some t)
    (hends : t.Ends n) : (new f palette b editor choices).Busy os n true := by
  obtain ⟨i, ⟨hn, r, hr, hloading⟩, r', hr', hdone⟩ := hends
  have hcoherent := (named_performAll? h).coherent
  obtain ⟨drawn, hp⟩ := Review.mem_applying_iff.1 ((hcoherent.loading i r hr).1 hloading)
  cases drawn with
  | true => exact (mem_pending_iff_busy h hn true).1 hp
  | false =>
    -- what was not drawn is still being applied after the tick
    have htick : t.review.perform? (.happens .tick) = some t.review.update.1 := rfl
    have hstays : ⟨i, false⟩ ∈ t.review.update.1.pending :=
      (Review.mem_pending_perform htick).2 (.inl ⟨false, hp, rfl, rfl⟩)
    have hbusy := (hcoherent.update.loading i r' hr').2 (Review.mem_applying_iff.2 ⟨_, hstays⟩)
    exact absurd (hbusy.symm.trans hdone) nofun

/-- A row that was made busy is so at every frame before it is ended. -/
theorem exists_busyAt {m : Tracked ε ν} {first : List (Operation ν)}
    (h : (new f palette b editor choices).performAll? os = some m) (hstarts : m.Starts n o)
    (hended : frameThenTick first = false) (ht : m.performAll? (o :: first) = some t)
    (hn : n ∈ t.names) : ∃ i, t.BusyAt n i := by
  have hrun : (new f palette b editor choices).performAll? (os ++ o :: first) = some t := by
    rw [performAll?_append, h]
    exact ht
  obtain ⟨i, hi⟩ := List.mem_iff_getElem?.1 hn
  have hbusy : (new f palette b editor choices).Busy (os ++ o :: first) n
      (first.any (·.isFrame)) := ⟨os, o, first, m, rfl, h, hstarts, hended, rfl⟩
  have hp := (mem_pending_iff_busy hrun hi _).2 hbusy
  have hnamed := named_performAll? hrun
  have hlt : i < t.review.rows.length :=
    hnamed.length_names ▸ (List.getElem?_eq_some_iff.1 hi).1
  have hr := List.getElem?_eq_getElem hlt
  exact ⟨i, hi, _, hr, (hnamed.coherent.loading i _ hr).2 (Review.mem_applying_iff.2 ⟨_, hp⟩)⟩

/-- Before a tick ends applying a row there was a frame since it was made busy, and the row was busy
at every such frame. Those on which it was the selected row, with a line for it, have drawn it. -/
theorem seen_performAll? (h : (new f palette b editor choices).performAll? os = some t)
    (hends : t.Ends n) :
    (new f palette b editor choices).Sometime os fun m o rest ↦
      m.Starts n o ∧ frameThenTick rest = false ∧ rest.any (·.isFrame) = true ∧
      ∀ first a c last, rest = first ++ .happens (.frame a c) :: last →
        ∃ m' ∈ m.performAll? (o :: first), ∃ i, m'.BusyAt n i ∧
          (i = m'.review.selected → 2 ≤ a.height → m'.review.Draws a c i) := by
  obtain ⟨before, o, rest, m, rfl, hm, hstarts, hended, hframe⟩ := hends.busy h
  refine ⟨before, o, rest, m, rfl, hm, hstarts, hended, hframe, ?_⟩
  rintro first a c last rfl
  obtain ⟨i, ⟨hi, -⟩, -⟩ := hends
  -- the run goes on from the frame, with the row still there
  rw [performAll?_append, hm, Option.bind_some, ← List.cons_append, performAll?_append] at h
  obtain ⟨m', hm', h⟩ := Option.bind_eq_some_iff.1 h
  obtain ⟨t', ht', -⟩ := Option.bind_eq_some_iff.1 h
  have hn : n ∈ m'.names := (names_sublist_performAll? h).mem (List.mem_of_getElem? hi)
  obtain ⟨j, hj⟩ := exists_busyAt hm hstarts (frameThenTick_of_append hended) hm' hn
  refine ⟨m', hm', j, hj, ?_⟩
  rintro rfl ha
  obtain ⟨l, hl, -⟩ := Option.map_eq_some_iff.1 ht'
  obtain ⟨f, hf, -⟩ := Option.map_eq_some_iff.1 hl
  obtain ⟨-, r, hr, -⟩ := hj
  exact Review.draws_selected hf (List.getElem?_eq_some_iff.1 hr).1 ha

theorem seen_performAll?_selected :
    ∃ t ∈ performAll? (new (.sums 2) .dark .standard DocumentEditor.empty [])
        [.happens (.key (.press (.char 'a') .none)),
          .happens (.frame ⟨0, 0, 20, 2⟩ (.blank 20 2))],
      t.Ends 0 ∧ SeenSince (new (.sums 2) .dark .standard DocumentEditor.empty [])
        [.happens (.key (.press (.char 'a') .none)),
          .happens (.frame ⟨0, 0, 20, 2⟩ (.blank 20 2))] 0 := by
  have hrun : ∃ t ∈ performAll? (new (.sums 2) .dark .standard DocumentEditor.empty [])
      [.happens (.key (.press (.char 'a') .none)),
        .happens (.frame ⟨0, 0, 20, 2⟩ (.blank 20 2))],
      t.names[0]? = some 0 ∧ (∃ r ∈ t.review.rows[0]?, r.loading = true) ∧
        ∃ r ∈ t.review.update.1.rows[0]?, r.loading = false := by
    decide +kernel
  have happlied : ∀ t ∈ performAll? (new (.sums 2) .dark .standard DocumentEditor.empty [])
      [.happens (.key (.press (.char 'a') .none))], t.names = [0, 1] ∧ t.review.selected = 0 := by
    decide +kernel
  obtain ⟨t, ht, hn, hbusy, hdone⟩ := hrun
  have hends : t.Ends 0 := ⟨0, ⟨hn, hbusy⟩, hdone⟩
  refine ⟨t, ht, hends, ?_⟩
  obtain ⟨before, o, rest, m, hos, hm, hstarts, hended, hframe, hseen⟩ := seen_performAll? ht hends
  -- the frame comes after the key
  rcases before with - | ⟨k, before⟩
  · obtain ⟨rfl, rfl⟩ := List.cons.inj hos
    obtain ⟨t', ht', i, ⟨hi, hloading⟩, hdraws⟩ := hseen [] _ _ [] rfl
    obtain rfl := Option.some.inj hm
    obtain ⟨hnames, hselected⟩ := happlied t' ht'
    have hkey := (performAll?_singleton _ _).symm.trans ht'
    have hfirst : i = 0 := by
      rw [hnames] at hi
      rcases i with - | - | i
      · rfl
      · exact absurd hi nofun
      · exact absurd hi nofun
    have hdrawn := hdraws (hfirst.trans hselected.symm) (Nat.le_refl 2)
    exact ⟨[], _, _, _, rfl, rfl, hstarts, hended, t', hkey, [], _, [], t', rfl, rfl, _, _, i, rfl,
      ⟨hi, hloading⟩, hdrawn⟩
  · have hlast : rest = [] := by
      have hlength := congrArg List.length hos
      simp only [List.length_cons, List.length_append, List.length_nil] at hlength
      exact List.length_eq_zero_iff.1 (by omega)
    exact absurd (hlast ▸ hframe) nofun

/-- The only frame is drawn when the selection has left the applied row, and has a line for the
selected one only: a tick ends applying what was never seen to be busy. -/
theorem ends_unseen :
    ∃ t ∈ performAll? (new (.sums 2) .dark .standard DocumentEditor.empty [])
        [.happens (.key (.press (.char 'a') .none)), .happens (.key (.press .down .none)),
          .happens (.frame ⟨0, 0, 20, 2⟩ (.blank 20 2))],
      t.Ends 0 ∧ ¬SeenSince (new (.sums 2) .dark .standard DocumentEditor.empty [])
        [.happens (.key (.press (.char 'a') .none)), .happens (.key (.press .down .none)),
          .happens (.frame ⟨0, 0, 20, 2⟩ (.blank 20 2))] 0 := by
  have hrun : ∃ t ∈ performAll? (new (.sums 2) .dark .standard DocumentEditor.empty [])
      [.happens (.key (.press (.char 'a') .none)), .happens (.key (.press .down .none)),
        .happens (.frame ⟨0, 0, 20, 2⟩ (.blank 20 2))],
      t.names[0]? = some 0 ∧ (∃ r ∈ t.review.rows[0]?, r.loading = true) ∧
        ∃ r ∈ t.review.update.1.rows[0]?, r.loading = false := by
    decide +kernel
  have hhidden : ∀ t ∈ performAll? (new (.sums 2) .dark .standard DocumentEditor.empty [])
      [.happens (.key (.press (.char 'a') .none)), .happens (.key (.press .down .none))],
      t.names = [0, 1] ∧ ¬t.review.Draws ⟨0, 0, 20, 2⟩ (.blank 20 2) 0 := by
    decide +kernel
  obtain ⟨t, ht, hn, hbusy, hdone⟩ := hrun
  refine ⟨t, ht, ⟨0, ⟨hn, hbusy⟩, hdone⟩, ?_⟩
  rintro ⟨before, o, rest, m, hos, hm, -, -, m', hm', first, o', last, t', rfl, ht',
    a, c, i, rfl, ⟨hi, -⟩, hdraws⟩
  have hbefore : performAll? (new (.sums 2) .dark .standard DocumentEditor.empty [])
      (before ++ o :: first) = some t' := by
    rw [performAll?_append, hm, Option.bind_some]
    exact Option.bind_eq_some_iff.2 ⟨m', hm', ht'⟩
  rw [← List.cons_append, ← List.append_assoc] at hos
  generalize before ++ o :: first = keys at hos hbefore
  -- both keys come before the frame
  rcases keys with - | ⟨k, - | ⟨k', - | ⟨k'', keys⟩⟩⟩
  · exact absurd (List.cons.inj hos).1 nofun
  · exact absurd (List.cons.inj (List.cons.inj hos).2).1 nofun
  · obtain ⟨rfl, hmore⟩ := List.cons.inj hos
    obtain ⟨rfl, hframe⟩ := List.cons.inj hmore
    obtain ⟨rfl, rfl⟩ := Happening.frame.inj (Operation.happens.inj (List.cons.inj hframe).1)
    obtain ⟨hnames, hhidden⟩ := hhidden t' hbefore
    rw [hnames] at hi
    rcases i with - | - | i
    · exact hhidden hdraws
    · exact absurd hi nofun
    · exact absurd hi nofun
  · exact absurd (congrArg List.length hos) (by simp)

end Tracked

end SuggestionReview
