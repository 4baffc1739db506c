import Mathlib.Data.List.Induction
import SuggestionReview.Proofs.Review.Pending

namespace SuggestionReview

def frameThenTick {ν : Type} : List (Operation ν) → Bool
  | [] => false
  | o :: os => o.isFrame && os.any (·.isTick) || frameThenTick os

theorem frameThenTick_concat {ν : Type} (os : List (Operation ν)) (o : Operation ν) :
    frameThenTick (os ++ [o]) = (frameThenTick os || os.any (·.isFrame) && o.isTick) := by
  induction os with
  | nil => simp [frameThenTick]
  | cons o' os ih =>
    simp only [List.cons_append, frameThenTick, ih, List.any_append, List.any_cons, List.any_nil,
      Bool.or_false]
    grind

theorem frameThenTick_of_append {ν : Type} {first last : List (Operation ν)}
    (h : frameThenTick (first ++ last) = false) : frameThenTick first = false := by
  induction first with
  | nil => rfl
  | cons o first ih =>
    simp only [List.cons_append, frameThenTick, List.any_append, Bool.or_eq_false_iff,
      Bool.and_eq_false_iff] at h ⊢
    exact ⟨h.1.imp_right And.left, ih h.2⟩

/-- A review and the positions that its rows had in the beginning, by which they are called. -/
structure Tracked (ε : Type) (ν : Type := CodeView) where
  review : Review ε ν
  names : List Nat

def Suggestion.caption (s : Suggestion) : String × Option String := (s.title, s.message)

namespace Tracked

variable {ε ν : Type} {f : SuggestionFile}

def new [Viewer ν] (f : SuggestionFile) (palette : Palette) (b : Bindings) (editor : ε)
    (choices : List (Choice ν)) : Tracked ε ν :=
  ⟨.built f palette b editor choices, .range f.suggestions.length⟩

structure Named (f : SuggestionFile) (t : Tracked ε ν) : Prop where
  coherent : t.review.Coherent
  distinct : t.names.Nodup
  kept : t.names.map (fun n ↦ f.suggestions[n]?.map (·.caption)) =
    t.review.cards.map fun c ↦ some c.proposal.suggestion.caption

theorem Named.length_names {t : Tracked ε ν} (ht : t.Named f) :
    t.names.length = t.review.rows.length := by
  simpa [Review.cards] using congrArg List.length ht.kept

theorem Named.getElem?_names {t : Tracked ε ν} (h : t.Named f) {i : Nat} {r : Row ε ν}
    (hr : t.review.rows[i]? = some r) : ∃ n s, t.names[i]? = some n ∧
      f.suggestions[n]? = some s ∧ r.suggestion.caption = s.caption := by
  have hi : (t.names.map fun n ↦ f.suggestions[n]?.map (·.caption))[i]? =
      some (some r.suggestion.caption) := by
    rw [h.kept, Review.cards, List.map_map, List.getElem?_map, hr]
    rfl
  rw [List.getElem?_map] at hi
  obtain ⟨n, hn, hs⟩ := Option.map_eq_some_iff.1 hi
  obtain ⟨s, hs, hcaption⟩ := Option.map_eq_some_iff.1 hs
  exact ⟨n, s, hn, hs, hcaption.symm⟩

theorem named_new [Viewer ν] (f : SuggestionFile) (palette : Palette) (b : Bindings) (editor : ε)
    (choices : List (Choice ν)) : (new f palette b editor choices).Named f := by
  refine ⟨Review.coherent_built f palette b editor choices, List.nodup_range, ?_⟩
  refine List.ext_getElem? fun i ↦ ?_
  simp only [new, Review.cards_built, List.getElem?_map, List.getElem?_mapIdx, Option.map_map]
  rcases Nat.lt_or_ge i f.suggestions.length with hi | hi
  · rw [List.getElem?_range hi, List.getElem?_eq_getElem hi]
    simp [List.getElem?_eq_getElem hi]
  · rw [List.getElem?_eq_none hi, List.getElem?_eq_none (by simpa using hi)]
    rfl

variable [PayloadEditor ε] {t t' : Tracked ε ν} {o : Operation ν} {os : List (Operation ν)}
  {n : Nat}

def Starts (t : Tracked ε ν) (n : Nat) (o : Operation ν) : Prop :=
  ∃ i r, t.names[i]? = some n ∧ t.review.rows[i]? = some r ∧ r.loading = false ∧
    t.review.request? o = some (i, .apply)

theorem Named.starts_iff (ht : t.Named f) {i : Nat}
    (hn : t.names[Review.cameFrom (t.review.request? o) i]? = some n) :
    t.Starts n o ↔ t.review.request? o = some (i, .apply) ∧ i ∉ t.review.applying := by
  constructor
  · rintro ⟨j, r, hj, hr, hloading, hq⟩
    have hn : t.names[i]? = some n := by rwa [hq] at hn
    have hlt : i < t.names.length := (List.getElem?_eq_some_iff.1 hn).1
    obtain rfl := (List.getElem?_inj hlt ht.distinct).1 (hn.trans hj.symm)
    refine ⟨hq, fun hmem ↦ ?_⟩
    exact absurd (((ht.coherent.loading i r hr).2 hmem).symm.trans hloading) nofun
  · rintro ⟨hq, hnot⟩
    have hn : t.names[i]? = some n := by rwa [hq] at hn
    have hlt : i < t.names.length := (List.getElem?_eq_some_iff.1 hn).1
    have hr := List.getElem?_eq_getElem (ht.length_names ▸ hlt)
    refine ⟨i, _, hn, hr, ?_, hq⟩
    exact Bool.eq_false_iff.2 fun hloading ↦ hnot ((ht.coherent.loading i _ hr).1 hloading)

def namesAfter (t : Tracked ε ν) (o : Operation ν) : List Nat :=
  Review.remaining (t.review.request? o) t.names

variable [Viewer ν]

def perform? (t : Tracked ε ν) (o : Operation ν) : Option (Tracked ε ν) :=
  (t.review.perform? o).map (⟨·, t.namesAfter o⟩)

def performAll? (t : Tracked ε ν) (os : List (Operation ν)) : Option (Tracked ε ν) :=
  os.foldlM perform? t

theorem performAll?_concat (t : Tracked ε ν) (os : List (Operation ν)) (o : Operation ν) :
    t.performAll? (os ++ [o]) = (t.performAll? os).bind (perform? · o) := by
  simp [performAll?, List.foldlM_append]

theorem exists_names {l : Review ε ν} (h : t.review.performAll? os = some l) :
    ∃ names, t.performAll? os = some ⟨l, names⟩ := by
  induction os generalizing t with
  | nil => exact ⟨t.names, congrArg some (Option.some.inj h ▸ rfl)⟩
  | cons o os ih =>
    obtain ⟨m, hm, h⟩ := Option.bind_eq_some_iff.1 h
    obtain ⟨names, hnames⟩ := ih (t := ⟨m, t.namesAfter o⟩) h
    have hperform : t.perform? o = some ⟨m, t.namesAfter o⟩ := by rw [perform?, hm, Option.map_some]
    exact ⟨names, Option.bind_eq_some_iff.2 ⟨_, hperform, hnames⟩⟩

theorem Named.perform (ht : t.Named f) (h : t.perform? o = some t') : t'.Named f := by
  obtain ⟨l, hl, rfl⟩ := Option.map_eq_some_iff.1 h
  refine ⟨ht.coherent.perform hl, ht.distinct.sublist (Review.remaining_sublist _ _), ?_⟩
  have hkept := Review.map_cardsAfter_kept (g := fun c ↦ some c.proposal.suggestion.caption)
    (fun _ _ ↦ rfl) t.review (t.review.request? o)
  rw [Review.cards_perform hl, hkept, ← ht.kept]
  exact Review.map_remaining _ _ _

/-- Whether there is an operation in a run, of which something holds, given what it is done to and
what is done after it. -/
def Sometime (t : Tracked ε ν) (os : List (Operation ν))
    (P : Tracked ε ν → Operation ν → List (Operation ν) → Prop) : Prop :=
  ∃ first o rest m, os = first ++ o :: rest ∧ t.performAll? first = some m ∧ P m o rest

theorem sometime_concat {P : Tracked ε ν → Operation ν → List (Operation ν) → Prop} :
    t.Sometime (os ++ [o]) P ↔
      t.Sometime os (fun m o' rest ↦ P m o' (rest ++ [o])) ∨
        ∃ m, t.performAll? os = some m ∧ P m o [] := by
  constructor
  · rintro ⟨first, o', rest, m, hos, hm, hP⟩
    -- it is the last operation itself, or the last one is left of the rest
    rcases List.eq_nil_or_concat rest with rfl | ⟨rest, last, rfl⟩
    · obtain ⟨rfl, hlast⟩ := List.append_inj' hos rfl
      obtain rfl := List.singleton_inj.1 hlast
      exact .inr ⟨m, hm, hP⟩
    · rw [List.concat_eq_append, ← List.cons_append, ← List.append_assoc] at hos
      obtain ⟨rfl, hlast⟩ := List.append_inj' hos rfl
      obtain rfl := List.singleton_inj.1 hlast
      rw [List.concat_eq_append] at hP
      exact .inl ⟨first, o', rest, m, rfl, hm, hP⟩
  · rintro (⟨first, o', rest, m, rfl, hm, hP⟩ | ⟨m, hm, hP⟩)
    · exact ⟨first, o', rest ++ [o], m, by simp, hm, hP⟩
    · exact ⟨os, o, [], m, rfl, hm, hP⟩

/-- Whether the row of a name was made busy in a run, with no tick after a frame since then, and
whether there was a frame since then. -/
def Busy (t : Tracked ε ν) (os : List (Operation ν)) (n : Nat) (drawn : Bool) : Prop :=
  t.Sometime os fun m o rest ↦
    m.Starts n o ∧ frameThenTick rest = false ∧ rest.any (·.isFrame) = drawn

def Dismissed (t : Tracked ε ν) (os : List (Operation ν)) (n : Nat) : Prop :=
  t.Sometime os fun m o _ ↦ ∃ i, m.names[i]? = some n ∧ m.review.request? o = some (i, .dismiss)

theorem busy_concat {drawn' : Bool} : t.Busy (os ++ [o]) n drawn' ↔
    (∃ drawn, t.Busy os n drawn ∧ (drawn && o.isTick) = false ∧ (drawn || o.isFrame) = drawn') ∨
      (∃ m, t.performAll? os = some m ∧ m.Starts n o) ∧ drawn' = false := by
  rw [Busy, sometime_concat]
  refine or_congr ⟨?_, ?_⟩ ⟨?_, ?_⟩
  · rintro ⟨first, o', rest, m, hos, hm, hstarts, hended, hframe⟩
    rw [frameThenTick_concat, Bool.or_eq_false_iff] at hended
    refine ⟨_, ⟨first, o', rest, m, hos, hm, hstarts, hended.1, rfl⟩, hended.2, ?_⟩
    simpa using hframe
  · rintro ⟨_, ⟨first, o', rest, m, hos, hm, hstarts, hended, rfl⟩, htick, hframe⟩
    refine ⟨first, o', rest, m, hos, hm, hstarts, ?_, by simpa using hframe⟩
    rw [frameThenTick_concat, hended, htick]
    rfl
  · rintro ⟨m, hm, hstarts, -, rfl⟩
    exact ⟨⟨m, hm, hstarts⟩, rfl⟩
  · rintro ⟨⟨m, hm, hstarts⟩, rfl⟩
    exact ⟨m, hm, hstarts, rfl, rfl⟩

theorem mem_or_dismissed_perform (h : t.perform? o = some t') (hn : n ∈ t.names) :
    n ∈ t'.names ∨ ∃ i, t.names[i]? = some n ∧ t.review.request? o = some (i, .dismiss) := by
  obtain ⟨l, -, rfl⟩ := Option.map_eq_some_iff.1 h
  obtain ⟨i, hi⟩ := List.mem_iff_getElem?.1 hn
  simp only [namesAfter, Review.remaining]
  split
  · next removed hq =>
    rcases eq_or_ne i removed with rfl | hne
    · exact .inr ⟨i, hi, hq⟩
    · exact .inl (List.mem_eraseIdx_iff_getElem?.2 ⟨i, hne, hi⟩)
  · exact .inl hn

theorem Named.mem_pending_iff (ht : t.Named f) (h : t.perform? o = some t') {i : Nat}
    (hn : t'.names[i]? = some n) : ∃ j, t.names[j]? = some n ∧ ∀ drawn',
      ⟨i, drawn'⟩ ∈ t'.review.pending ↔
        (∃ drawn, ⟨j, drawn⟩ ∈ t.review.pending ∧ (drawn && o.isTick) = false ∧
          (drawn || o.isFrame) = drawn') ∨ t.Starts n o ∧ drawn' = false := by
  obtain ⟨l, hl, rfl⟩ := Option.map_eq_some_iff.1 h
  have hn : t.names[Review.cameFrom (t.review.request? o) i]? = some n := by
    rwa [← Review.getElem?_remaining]
  refine ⟨_, hn, fun drawn' ↦ ?_⟩
  rw [Review.mem_pending_perform hl, ht.starts_iff hn, and_assoc]

variable {palette : Palette} {b : Bindings} {editor : ε} {choices : List (Choice ν)}

theorem named_performAll? (h : (new f palette b editor choices).performAll? os = some t) :
    t.Named f := by
  induction os using List.reverseRecOn generalizing t with
  | nil => exact Option.some.inj h ▸ named_new f palette b editor choices
  | append_singleton os o ih =>
    rw [performAll?_concat] at h
    obtain ⟨m, hm, h⟩ := Option.bind_eq_some_iff.1 h
    exact (ih hm).perform h

theorem mem_or_dismissed_performAll? (h : t.performAll? os = some t') (hn : n ∈ t.names) :
    n ∈ t'.names ∨ t.Dismissed os n := by
  induction os using List.reverseRecOn generalizing t' with
  | nil => exact .inl (Option.some.inj h ▸ hn)
  | append_singleton os o ih =>
    rw [performAll?_concat] at h
    obtain ⟨m, hm, h⟩ := Option.bind_eq_some_iff.1 h
    rw [Dismissed, sometime_concat]
    rcases ih hm with hn | hgone
    · exact (mem_or_dismissed_perform h hn).imp_right fun hgone ↦ .inr ⟨m, hm, hgone⟩
    · exact .inr (.inl hgone)

theorem mem_pending_iff_busy (h : (new f palette b editor choices).performAll? os = some t)
    {i : Nat} (hn : t.names[i]? = some n) (drawn : Bool) :
    ⟨i, drawn⟩ ∈ t.review.pending ↔ (new f palette b editor choices).Busy os n drawn := by
  -- on the last operation: where the row was before it differs, its name does not
  induction os using List.reverseRecOn generalizing t i drawn with
  | nil =>
    obtain rfl := Option.some.inj h
    refine iff_of_false ?_ ?_
    · have hpending : (new f palette b editor choices).review.pending = [] :=
        Review.pending_built f palette b editor choices
      rw [hpending]
      exact List.not_mem_nil
    · rintro ⟨first, o, rest, m, hos, -⟩
      exact absurd hos.symm (by simp)
  | append_singleton os o ih =>
    rw [performAll?_concat] at h
    obtain ⟨m, hm, h⟩ := Option.bind_eq_some_iff.1 h
    obtain ⟨j, hj, hstep⟩ := (named_performAll? hm).mem_pending_iff h hn
    have hstarts : (∃ m, (new f palette b editor choices).performAll? os = some m ∧ m.Starts n o) ↔
        m.Starts n o := by
      simp only [hm, Option.some.injEq, exists_eq_left']
    simp only [hstep, busy_concat, ih hm hj, hstarts]

theorem busy_unique (h : (new f palette b editor choices).performAll? os = some t)
    (hn : n ∈ t.names) {drawn drawn' : Bool}
    (hbusy : (new f palette b editor choices).Busy os n drawn)
    (hbusy' : (new f palette b editor choices).Busy os n drawn') : drawn = drawn' := by
  obtain ⟨i, hi⟩ := List.mem_iff_getElem?.1 hn
  have hp := (mem_pending_iff_busy h hi drawn).2 hbusy
  have hp' := (mem_pending_iff_busy h hi drawn').2 hbusy'
  have hdistinct := (named_performAll? h).coherent.distinct
  exact (PendingApply.mk.inj (List.inj_on_of_nodup_map hdistinct hp hp' rfl)).2

/-- In every run rows keep their names until they are dismissed, and a row is being applied exactly
from when it was asked to be, and was not yet, until a tick that follows a frame: that tick ends
it. -/
theorem loading_performAll? {l : Review ε ν}
    (h : (Review.built f palette b editor choices).performAll? os = some l) :
    ∃ names, (new f palette b editor choices).performAll? os = some ⟨l, names⟩ ∧
    (∀ n < f.suggestions.length, n ∈ names ∨ (new f palette b editor choices).Dismissed os n) ∧
    ∀ (i : Nat) (r : Row ε ν), l.rows[i]? = some r → ∃ n s, names[i]? = some n ∧
      f.suggestions[n]? = some s ∧ r.suggestion.caption = s.caption ∧
      (r.loading = true ↔ ∃ drawn, (new f palette b editor choices).Busy os n drawn) ∧
      ∀ os', os = os' ++ [.happens .tick] → (new f palette b editor choices).Busy os' n true →
        r.loading = false := by
  obtain ⟨names, ht⟩ := exists_names (t := new f palette b editor choices) h
  have hnamed := named_performAll? ht
  refine ⟨names, ht, fun n hn ↦ mem_or_dismissed_performAll? ht (List.mem_range.2 hn),
    fun i r hr ↦ ?_⟩
  obtain ⟨n, s, hn, hs, hcaption⟩ := hnamed.getElem?_names hr
  have hloading : r.loading = true ↔ ∃ drawn, (new f palette b editor choices).Busy os n drawn := by
    rw [hnamed.coherent.loading i r hr, Review.mem_applying_iff]
    exact exists_congr fun drawn ↦ mem_pending_iff_busy ht hn drawn
  refine ⟨n, s, hn, hs, hcaption, hloading, ?_⟩
  rintro os' rfl hdrawn
  rw [performAll?_concat] at ht
  obtain ⟨m, hm, ht⟩ := Option.bind_eq_some_iff.1 ht
  obtain ⟨j, hj, -⟩ := (named_performAll? hm).mem_pending_iff ht hn
  refine Bool.eq_false_iff.2 fun hbusy ↦ ?_
  obtain ⟨drawn', hbusy⟩ := hloading.1 hbusy
  -- still busy after the tick, the row would not have been drawn before it, or the tick would apply it
  rcases busy_concat.1 hbusy with ⟨drawn, hbefore, htick, -⟩ | ⟨⟨m', -, i', r', -, -, -, hq⟩, -⟩
  · obtain rfl := busy_unique hm (List.mem_of_getElem? hj) hbefore hdrawn
    exact absurd htick nofun
  · exact absurd hq nofun

/-- The second row is still being applied when it has become the first one and has been drawn. -/
theorem loading_performAll?_moved :
    ∃ l ∈ Review.performAll? (.built (.sums 2) .dark .standard DocumentEditor.empty [])
        [.event 1 .apply, .happens (.key (.press (.char 'x') .none)),
          .happens (.frame ⟨0, 0, 20, 5⟩ (.blank 20 5))],
      ∃ r ∈ l.rows[0]?, r.loading = true ∧
        ∃ drawn, Busy (new (.sums 2) .dark .standard DocumentEditor.empty [])
          [.event 1 .apply, .happens (.key (.press (.char 'x') .none)),
            .happens (.frame ⟨0, 0, 20, 5⟩ (.blank 20 5))] 1 drawn := by
  have hrun : (∃ l ∈ Review.performAll? (.built (.sums 2) .dark .standard DocumentEditor.empty [])
      [.event 1 .apply, .happens (.key (.press (.char 'x') .none)),
        .happens (.frame ⟨0, 0, 20, 5⟩ (.blank 20 5))], ∃ r ∈ l.rows[0]?, r.loading = true) ∧
    (performAll? (new (.sums 2) .dark .standard DocumentEditor.empty [])
      [.event 1 .apply, .happens (.key (.press (.char 'x') .none)),
        .happens (.frame ⟨0, 0, 20, 5⟩ (.blank 20 5))]).map (·.names) = some [1] := by
    decide +kernel
  obtain ⟨⟨l, hl, r, hr, hbusy⟩, hnames⟩ := hrun
  obtain ⟨names, ht, -, hrows⟩ := loading_performAll? hl
  obtain ⟨n, s, hn, -, -, hloading, -⟩ := hrows 0 r hr
  rw [ht] at hnames
  obtain rfl := Option.some.inj hnames
  obtain rfl := Option.some.inj hn
  exact ⟨l, hl, r, hr, hbusy, hloading.1 hbusy⟩

end Tracked

end SuggestionReview
