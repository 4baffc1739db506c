import SuggestionReview.Basic
import SuggestionReview.Screen.Paragraph

namespace SuggestionReview.Wrap

variable {limit : Nat} {g : Glyph} {gs : List Glyph}

theorem columns_append (gs rest : List Glyph) : columns (gs ++ rest) = columns gs + columns rest :=
  total_append _ gs rest

theorem columns_concat (gs : List Glyph) (g : Glyph) : columns (gs ++ [g]) = columns gs + g.width :=
  columns_append gs [g]

theorem columns_of_single (h : ∀ g ∈ gs, g.width = 1) : columns gs = gs.length := by
  induction gs with
  | nil => rfl
  | cons g gs ih =>
    obtain ⟨hg, h⟩ := List.forall_mem_cons.1 h
    rw [columns, total_cons, hg, List.length_cons, Nat.add_comm]
    exact congrArg (· + 1) (ih h)

namespace State

variable {s : State}

/-- Whether glyphs were read that all are on the first line or wait to be put there. A blank comes
behind a word only when the word has been put there. -/
structure Reads (s : State) (gs : List Glyph) : Prop where
  finished : s.finished = []
  glyphs : s.line ++ s.blanks ++ s.word = gs
  lineWidth : s.lineWidth = columns s.line
  blanksWidth : s.blanksWidth = columns s.blanks
  wordWidth : s.wordWidth = columns s.word
  blank : ∀ g ∈ s.blanks, g.isBlank = true
  afterWord : s.word ≠ [] → s.afterWord = true

theorem reads_start : start.Reads [] :=
  ⟨rfl, rfl, rfl, rfl, rfl, List.forall_mem_nil _, absurd rfl⟩

theorem Reads.columns (h : s.Reads gs) :
    s.lineWidth + s.blanksWidth + s.wordWidth = columns gs := by
  rw [← h.glyphs, columns_append, columns_append, h.lineWidth, h.blanksWidth, h.wordWidth]

theorem Reads.commit (h : s.Reads gs) : (s.commit false).Reads gs := by
  have hline : (s.commit false).line = gs := by simpa [State.commit] using h.glyphs
  have hwidth : (s.commit false).lineWidth = Wrap.columns gs := by
    simpa [State.commit] using h.columns
  refine ⟨h.finished, ?_, ?_, rfl, rfl, List.forall_mem_nil _, absurd rfl⟩
  · simpa [State.commit] using h.glyphs
  · rw [hwidth, hline]

theorem Reads.await (h : s.Reads gs) (hword : g.isBlank = true → s.word = []) :
    (s.await g).Reads (gs ++ [g]) := by
  obtain ⟨hfinished, rfl, hline, hblanks, hwidth, hblank, hafter⟩ := h
  rw [State.await]
  split
  · next hg =>
    refine ⟨hfinished, by simp [hword hg], hline, ?_, hwidth, ?_, fun hne ↦ absurd (hword hg) hne⟩
    · rw [columns_concat, hblanks]
    · exact List.forall_mem_append.2 ⟨hblank, List.forall_mem_singleton.2 hg⟩
  · exact ⟨hfinished, by simp, hline, hblanks, by rw [columns_concat, hwidth], hblank, fun _ ↦ rfl⟩

theorem Reads.exists_committed (h : s.Reads gs) (limit : Nat) (g : Glyph) :
    ∃ m, (if s.mustCommit limit false g then s.commit false else s) = m ∧ m.Reads gs ∧
      (g.isBlank = true → m.word = []) := by
  split
  · exact ⟨_, rfl, h.commit, fun _ ↦ rfl⟩
  · next hkeep =>
    -- a word that waits is put onto the line when a blank comes
    refine ⟨s, rfl, h, fun hg ↦ Decidable.byContradiction fun hword ↦ hkeep ?_⟩
    simp [mustCommit, h.afterWord hword, hg]

theorem Reads.step (h : s.Reads gs) (hvisible : 1 ≤ g.width)
    (hroom : Wrap.columns gs + g.width ≤ limit) : (s.step limit false g).Reads (gs ++ [g]) := by
  obtain ⟨m, hm, hreads, hword⟩ := h.exists_committed limit g
  have hcolumns := hreads.columns
  have hglyph : ¬limit < g.width := by omega
  have hline : ¬limit ≤ m.lineWidth := by omega
  have hall : ¬limit ≤ m.lineWidth + m.blanksWidth + m.wordWidth := by omega
  have hkeep : m.mustBreak limit g = false := by simp [mustBreak, hline, hall]
  simp only [State.step, if_neg hglyph, hm, hkeep, if_neg Bool.false_ne_true]
  exact hreads.await hword

theorem Reads.foldl {rest : List Glyph} (h : s.Reads gs) (hvisible : ∀ g ∈ rest, 1 ≤ g.width)
    (hroom : Wrap.columns gs + Wrap.columns rest ≤ limit) :
    (rest.foldl (State.step limit false) s).Reads (gs ++ rest) := by
  induction rest generalizing s gs with
  | nil => rwa [List.append_nil]
  | cons g rest ih =>
    obtain ⟨hg, hvisible⟩ := List.forall_mem_cons.1 hvisible
    have hsplit : Wrap.columns (g :: rest) = g.width + Wrap.columns rest := rfl
    have hstep : Wrap.columns gs + g.width ≤ limit := by omega
    have hmore := ih (h.step hg hstep) hvisible (by rw [columns_concat]; omega)
    rwa [List.append_assoc] at hmore

theorem Reads.not_lone (h : s.Reads gs) (hshown : gs = [] ∨ ∃ g ∈ gs, g.isBlank = false) :
    (s.line.isEmpty && s.word.isEmpty && !s.blanks.isEmpty) = false := by
  refine Bool.eq_false_iff.2 fun hlone ↦ ?_
  simp only [Bool.and_eq_true, List.isEmpty_iff, Bool.not_eq_true', List.isEmpty_eq_false_iff] at hlone
  obtain ⟨⟨hline, hword⟩, hblanks⟩ := hlone
  have hgs : s.blanks = gs := by simpa [hline, hword] using h.glyphs
  rcases hshown with hempty | ⟨g, hg, hsolid⟩
  · exact hblanks (hgs.trans hempty)
  · exact Bool.false_ne_true (hsolid.symm.trans (h.blank g (hgs ▸ hg)))

theorem Reads.finish (h : s.Reads gs) (hshown : gs = [] ∨ ∃ g ∈ gs, g.isBlank = false) :
    s.finish false = [gs] := by
  have hline : (s.commit false).line = gs := by simpa [State.commit] using h.glyphs
  have hlone := h.not_lone hshown
  cases gs with
  | nil => simp [State.finish, hline, hlone, h.finished]
  | cons g gs => simp [State.finish, hline, hlone, h.finished]

def indented (blanks : List Glyph) : State := ⟨[], [], 0, blanks, columns blanks, [], 0, false⟩

theorem step_indented {blanks : List Glyph} (hblank : g.isBlank = true) (hvisible : 1 ≤ g.width)
    (hroom : columns blanks + g.width ≤ limit) :
    (indented blanks).step limit false g = indented (blanks ++ [g]) := by
  have hglyph : ¬limit < g.width := by omega
  have hkeep : ¬limit < columns blanks + g.width := by omega
  have hlimit : limit ≠ 0 := by omega
  have hfits : ¬limit ≤ columns blanks := by omega
  simp [step, mustCommit, mustBreak, State.await, indented, hblank, hglyph, hkeep, hlimit, hfits,
    columns_concat]

theorem foldl_indented {blanks : List Glyph} (hblank : ∀ g ∈ gs, g.isBlank = true)
    (hvisible : ∀ g ∈ gs, 1 ≤ g.width) (hroom : columns blanks + columns gs ≤ limit) :
    gs.foldl (step limit false) (indented blanks) = indented (blanks ++ gs) := by
  induction gs generalizing blanks with
  | nil => rw [List.append_nil, List.foldl_nil]
  | cons g gs ih =>
    obtain ⟨hg, hblank⟩ := List.forall_mem_cons.1 hblank
    obtain ⟨hwidth, hvisible⟩ := List.forall_mem_cons.1 hvisible
    have hsplit : columns (g :: gs) = g.width + columns gs := rfl
    have hstep : columns blanks + g.width ≤ limit := by omega
    have hmore : columns (blanks ++ [g]) + columns gs ≤ limit := by
      rw [columns_concat]
      omega
    rw [List.foldl_cons, step_indented hg hwidth hstep, ih hblank hvisible hmore, List.append_assoc,
      List.singleton_append]

/-- The lines that come of a state: those that are finished, what waits, and an empty one before a
line that is nothing but blanks. -/
theorem length_finish (s : State) (trim : Bool) : (s.finish trim).length =
    max 1 (s.finished.length +
      (if s.line.isEmpty && s.word.isEmpty && !s.blanks.isEmpty then 1 else 0) +
      if (s.commit trim).line.isEmpty then 0 else 1) := by
  have hlines : ∀ all : List (List Glyph),
      (if all.isEmpty then [[]] else all.reverse).length = max 1 all.length := by
    intro all
    cases all with
    | nil => rfl
    | cons row rows => simp
  simp only [finish, hlines]
  congr 1
  split <;> split <;> rfl

def Spilled (s : State) : Prop :=
  2 ≤ s.finished.length ∨ 1 ≤ s.finished.length ∧ s.line ++ s.blanks ++ s.word ≠ []

theorem await_spills (s : State) (g : Glyph) : (s.await g).finished = s.finished ∧
    (s.await g).line ++ (s.await g).blanks ++ (s.await g).word ≠ [] := by
  rw [State.await]
  split <;> simp

theorem spilled_step (h : 1 ≤ s.finished.length) (hwidth : g.width ≤ limit) :
    (s.step limit false g).Spilled := by
  obtain ⟨m, hm, hfinished⟩ : ∃ m,
      (if s.mustCommit limit false g then s.commit false else s) = m ∧ m.finished = s.finished := by
    split <;> exact ⟨_, rfl, rfl⟩
  have hbreak : 2 ≤ (m.breakLine limit).finished.length := by
    have hlines : (m.breakLine limit).finished = m.line :: m.finished := rfl
    rw [hlines, hfinished]
    exact Nat.succ_le_succ h
  -- another line is finished, or something waits for it
  simp only [step, if_neg (Nat.not_lt.2 hwidth), hm]
  split
  · split
    · exact .inl hbreak
    · exact .inl (((m.breakLine limit).await_spills g).1 ▸ hbreak)
  · obtain ⟨hlines, hwaits⟩ := m.await_spills g
    exact .inr ⟨by rwa [hlines, hfinished], hwaits⟩

theorem Spilled.foldl (h : s.Spilled) (hwidth : ∀ g ∈ gs, g.width ≤ limit) :
    (gs.foldl (step limit false) s).Spilled := by
  induction gs generalizing s with
  | nil => exact h
  | cons g gs ih =>
    obtain ⟨hg, hwidth⟩ := List.forall_mem_cons.1 hwidth
    have hone : 1 ≤ s.finished.length := h.elim Nat.le_of_succ_le (·.1)
    exact ih (spilled_step hone hg) hwidth

theorem Spilled.two_le_length (h : s.Spilled) : 2 ≤ (s.finish false).length := by
  have hline : (s.commit false).line = s.line ++ s.blanks ++ s.word := by simp [commit]
  rw [length_finish]
  rcases h with hmany | ⟨hone, hwaits⟩
  · omega
  · rw [hline, List.isEmpty_eq_false_iff.2 hwaits, if_neg Bool.false_ne_true]
    omega

theorem dropBlanks_columns (gs : List Glyph) (width : Nat) :
    dropBlanks (columns gs) width gs = ([], width - columns gs) := by
  induction gs generalizing width with
  | nil => rfl
  | cons g gs ih =>
    have hsplit : columns (g :: gs) = g.width + columns gs := rfl
    rw [dropBlanks, if_neg (by omega), hsplit, Nat.add_sub_cancel_left, ih, Nat.sub_sub]

theorem Reads.exists_broken (h : s.Reads gs) (hfull : Wrap.columns gs = limit) (hvisible : 1 ≤ g.width)
    (hwidth : g.width ≤ limit) : ∃ m : State, m.Reads gs ∧ (g.isBlank = true → m.word = []) ∧
      s.step limit false g =
        if g.isBlank && (m.breakLine limit).blanks.isEmpty then m.breakLine limit
        else (m.breakLine limit).await g := by
  obtain ⟨m, hm, hreads, hword⟩ := h.exists_committed limit g
  have hcolumns := hreads.columns
  have hbreak : m.mustBreak limit g = true := by
    have hall : limit ≤ m.lineWidth + m.blanksWidth + m.wordWidth := by omega
    simp [mustBreak, hall, Nat.lt_of_lt_of_le Nat.zero_lt_one hvisible]
  refine ⟨m, hreads, hword, ?_⟩
  simp only [State.step, if_neg (Nat.not_lt.2 hwidth), hm, hbreak, if_true]

theorem Reads.finished_breakLine (h : s.Reads gs) : (s.breakLine limit).finished = [s.line] :=
  congrArg (s.line :: ·) h.finished

theorem Reads.length_finish_blank (h : s.Reads gs) (hfull : Wrap.columns gs = limit)
    (hg : g.isBlank = true) (hvisible : 1 ≤ g.width) (hwidth : g.width ≤ limit) :
    ((s.step limit false g).finish false).length = 1 := by
  obtain ⟨m, hreads, hword, hstep⟩ := h.exists_broken hfull hvisible hwidth
  have hcolumns := hreads.columns
  have hnoWord : m.wordWidth = 0 := by
    rw [hreads.wordWidth, hword hg]
    rfl
  have hroom : limit - m.lineWidth = Wrap.columns m.blanks := by
    rw [← hreads.blanksWidth]
    omega
  -- the blanks before it fill the rest of the line, so that none is left
  have hblanks : (m.breakLine limit).blanks = [] := by
    simp only [breakLine, hroom, dropBlanks_columns]
  have hline : (m.breakLine limit).line = [] := rfl
  have hword' : (m.breakLine limit).word = [] := hword hg
  rw [hstep, hblanks, hg]
  simp [length_finish, hreads.finished_breakLine, State.commit, hline, hblanks, hword']

theorem Reads.spilled_solid (h : s.Reads gs) (hfull : Wrap.columns gs = limit)
    (hg : g.isBlank = false) (hvisible : 1 ≤ g.width) (hwidth : g.width ≤ limit) :
    (s.step limit false g).Spilled := by
  obtain ⟨m, hreads, -, hstep⟩ := h.exists_broken hfull hvisible hwidth
  obtain ⟨hfinished, hwaits⟩ := (m.breakLine limit).await_spills g
  rw [hstep, hg, Bool.false_and, if_neg Bool.false_ne_true]
  exact .inr ⟨by rw [hfinished, hreads.finished_breakLine]; exact Nat.le_refl 1, hwaits⟩

theorem Reads.one_le_finished (h : s.Reads gs) (hfull : Wrap.columns gs = limit)
    (hvisible : 1 ≤ g.width) (hwidth : g.width ≤ limit) :
    1 ≤ (s.step limit false g).finished.length := by
  obtain ⟨m, hreads, -, hstep⟩ := h.exists_broken hfull hvisible hwidth
  have hone : 1 ≤ (m.breakLine limit).finished.length := by
    rw [hreads.finished_breakLine]
    exact Nat.le_refl 1
  rw [hstep]
  split
  · exact hone
  · rwa [((m.breakLine limit).await_spills g).1]

end State

/-- Whether a line fits, and is empty or more than blanks. -/
structure Whole (limit : Nat) (gs : List Glyph) : Prop where
  visible : ∀ g ∈ gs, 1 ≤ g.width
  columns_le : columns gs ≤ limit
  shown : gs = [] ∨ ∃ g ∈ gs, g.isBlank = false

instance (limit : Nat) (gs : List Glyph) : Decidable (Whole limit gs) :=
  decidable_of_iff
    ((∀ g ∈ gs, 1 ≤ g.width) ∧ columns gs ≤ limit ∧ (gs = [] ∨ ∃ g ∈ gs, g.isBlank = false))
    ⟨fun ⟨hvisible, hroom, hshown⟩ ↦ ⟨hvisible, hroom, hshown⟩,
      fun ⟨hvisible, hroom, hshown⟩ ↦ ⟨hvisible, hroom, hshown⟩⟩

theorem one_le_length_wrap (limit : Nat) (trim : Bool) (gs : List Glyph) :
    1 ≤ (wrap limit trim gs).length := by
  rw [wrap, State.length_finish]
  exact Nat.le_max_left _ _

theorem Whole.wrap (h : Whole limit gs) : wrap limit false gs = [gs] := by
  have hroom : columns [] + columns gs ≤ limit := (Nat.zero_add _).symm ▸ h.columns_le
  exact (State.reads_start.foldl h.visible hroom).finish h.shown

theorem wrap_of_blank (hne : gs ≠ []) (hblank : ∀ g ∈ gs, g.isBlank = true)
    (hvisible : ∀ g ∈ gs, 1 ≤ g.width) (hroom : columns gs ≤ limit) :
    wrap limit false gs = [[], gs] := by
  have hempty : columns [] + columns gs ≤ limit := (Nat.zero_add _).symm ▸ hroom
  have hfold : gs.foldl (State.step limit false) .start = .indented gs :=
    State.foldl_indented hblank hvisible hempty
  rw [Wrap.wrap, hfold]
  simp [State.finish, State.commit, State.indented, hne]

theorem length_wrap_of_full {front rest : List Glyph} (hlimit : 1 ≤ limit)
    (hsingle : ∀ x ∈ front ++ g :: rest, x.width = 1) (hfull : front.length = limit) :
    (wrap limit false (front ++ g :: rest)).length = 1 ↔ rest = [] ∧ g.isBlank = true := by
  obtain ⟨hfront, hmore⟩ := List.forall_mem_append.1 hsingle
  obtain ⟨hg, hrest⟩ := List.forall_mem_cons.1 hmore
  have hcolumns : columns front = limit := (columns_of_single hfront).trans hfull
  have hreads : (front.foldl (State.step limit false) .start).Reads front :=
    State.reads_start.foldl (fun g hg ↦ Nat.le_of_eq (hfront g hg).symm)
      (Nat.le_of_eq ((Nat.zero_add _).trans hcolumns))
  have hvisible : 1 ≤ g.width := Nat.le_of_eq hg.symm
  have hwidth : g.width ≤ limit := hg ▸ hlimit
  rw [wrap, List.foldl_append, List.foldl_cons]
  cases rest with
  | nil =>
    rcases hblank : g.isBlank with - | -
    · have htwo := (hreads.spilled_solid hcolumns hblank hvisible hwidth).two_le_length
      simp only [List.foldl_nil, Bool.false_eq_true, and_false, iff_false]
      omega
    · simp only [List.foldl_nil, and_self, iff_true]
      exact hreads.length_finish_blank hcolumns hblank hvisible hwidth
  | cons next rest =>
    obtain ⟨hnext, hrest⟩ := List.forall_mem_cons.1 hrest
    have hone := hreads.one_le_finished hcolumns hvisible hwidth
    have hspilled := (State.spilled_step hone (hnext ▸ hlimit : next.width ≤ limit)).foldl
      fun g hg ↦ (hrest g hg ▸ hlimit : g.width ≤ limit)
    have htwo := hspilled.two_le_length
    simp only [List.foldl_cons, reduceCtorEq, false_and, iff_false]
    omega

/-- A line of glyphs of one column is not broken exactly if it fits and is empty or more than blanks, or
if it is one blank too long. -/
theorem length_wrap_eq_one_iff (hlimit : 1 ≤ limit) (hsingle : ∀ g ∈ gs, g.width = 1) :
    (wrap limit false gs).length = 1 ↔
      gs.length ≤ limit ∧ (gs = [] ∨ ∃ g ∈ gs, g.isBlank = false) ∨
        ∃ front g, gs = front ++ [g] ∧ front.length = limit ∧ g.isBlank = true := by
  have hcolumns := columns_of_single hsingle
  have hvisible : ∀ g ∈ gs, 1 ≤ g.width := fun g hg ↦ Nat.le_of_eq (hsingle g hg).symm
  rcases Nat.lt_or_ge limit gs.length with hlong | hroom
  · -- the first glyph that does not fit on the line
    obtain ⟨front, g, rest, rfl, hfull⟩ :
        ∃ front g rest, gs = front ++ g :: rest ∧ front.length = limit := by
      refine ⟨gs.take limit, gs[limit], gs.drop (limit + 1), ?_, ?_⟩
      · rw [← List.drop_eq_getElem_cons hlong, List.take_append_drop]
      · exact List.length_take_of_le (Nat.le_of_lt hlong)
    rw [length_wrap_of_full hlimit hsingle hfull]
    constructor
    · rintro ⟨rfl, hblank⟩
      exact .inr ⟨front, g, rfl, hfull, hblank⟩
    · rintro (⟨hshort, -⟩ | ⟨front', g', hsame, hlength, hblank⟩)
      · exact absurd hlong (Nat.not_lt.2 hshort)
      · obtain ⟨-, hrest⟩ := List.append_inj hsame (hfull.trans hlength.symm)
        obtain ⟨rfl, rfl⟩ := List.cons.inj hrest
        exact ⟨rfl, hblank⟩
  · by_cases hshown : gs = [] ∨ ∃ g ∈ gs, g.isBlank = false
    · have hwhole : Whole limit gs := ⟨hvisible, hcolumns ▸ hroom, hshown⟩
      rw [hwhole.wrap]
      exact iff_of_true rfl (.inl ⟨hroom, hshown⟩)
    · obtain ⟨hne, hblank⟩ := not_or.1 hshown
      simp only [not_exists, not_and, Bool.not_eq_false] at hblank
      rw [wrap_of_blank hne hblank hvisible (hcolumns ▸ hroom)]
      refine iff_of_false (Nat.succ_ne_self 1) ?_
      rintro (⟨-, hshown'⟩ | ⟨front, g, rfl, hlength, -⟩)
      · exact hshown hshown'
      · rw [List.length_append, List.length_singleton] at hroom
        omega

end SuggestionReview.Wrap
