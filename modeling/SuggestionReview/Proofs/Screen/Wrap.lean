import SuggestionReview.Proofs.Text.Fill
import SuggestionReview.Screen.Paragraph

namespace SuggestionReview

structure Glyph.Solid (g : Glyph) : Prop where
  solid : g.isBlank = false
  width : g.width = 1

structure Glyph.Space (g : Glyph) : Prop where
  blank : g.isBlank = true
  width : g.width = 1

namespace Wrap

open Text (Fragment)
open Text.Fill (Greedy)

variable {limit : Nat} {g : Glyph} {gs : List Glyph}

structure Piece (limit : Nat) (gs : List Glyph) : Prop where
  visible : 1 ≤ gs.length
  length_le : gs.length ≤ limit
  solid : ∀ g ∈ gs, g.Solid

/-- Whether glyphs are those of some fragments. A word that is broken fills its lines, except for the
last part of it. -/
inductive Pieces (limit : Nat) : List Fragment → List Glyph → Prop
  | last {gs : List Glyph} (h : Piece limit gs) : Pieces limit [⟨gs.length, 0⟩] gs
  | broken {gs rest : List Glyph} {fs : List Fragment} (h : Piece limit gs) (hfull : gs.length = limit)
      (hrest : Pieces limit fs rest) : Pieces limit (⟨gs.length, 0⟩ :: fs) (gs ++ rest)
  | spaced {gs rest : List Glyph} {g : Glyph} {fs : List Fragment} (h : Piece limit gs) (hg : g.Space)
      (hrest : Pieces limit fs rest) : Pieces limit (⟨gs.length, 1⟩ :: fs) (gs ++ g :: rest)

theorem Pieces.fits {fs : List Fragment} (h : Pieces limit fs gs) : ∀ f ∈ fs, f.Fits limit := by
  induction h with
  | last h => exact List.forall_mem_singleton.2 ⟨h.visible, h.length_le, Nat.zero_le 1⟩
  | broken h hfull hrest ih =>
    exact List.forall_mem_cons.2 ⟨⟨h.visible, h.length_le, Nat.zero_le 1⟩, ih⟩
  | spaced h hg hrest ih =>
    exact List.forall_mem_cons.2 ⟨⟨h.visible, h.length_le, Nat.le_refl 1⟩, ih⟩

namespace State

def fresh (finished : List (List Glyph)) (word : List Glyph) (afterWord : Bool) : State :=
  ⟨finished, [], 0, [], 0, word, word.length, afterWord⟩

def opened (finished : List (List Glyph)) (line : List Glyph) (used : Nat) (blank : Glyph)
    (word : List Glyph) (afterWord : Bool) : State :=
  ⟨finished, line, used, [blank], 1, word, word.length, afterWord⟩

variable {finished : List (List Glyph)} {line word : List Glyph} {used : Nat} {blank : Glyph}
  {afterWord : Bool}

theorem step_fresh (hg : g.Solid) (hroom : word.length + 1 ≤ limit) :
    (fresh finished word afterWord).step limit true g = fresh finished (word ++ [g]) true := by
  obtain ⟨hsolid, hwidth⟩ := hg
  have hglyph : ¬limit < 1 := by omega
  have hkeep : ¬limit < word.length + 1 := by omega
  have hempty : limit ≠ 0 := by omega
  have hfits : ¬limit ≤ word.length := by omega
  simp [step, mustCommit, mustBreak, await, fresh, hsolid, hwidth, hglyph, hkeep, hempty, hfits]

theorem step_fresh_full (hlimit : 1 ≤ limit) (hg : g.Solid) (hfull : word.length = limit) :
    (fresh finished word afterWord).step limit true g = fresh (word :: finished) [g] true := by
  obtain ⟨hsolid, hwidth⟩ := hg
  have hglyph : ¬limit < 1 := by omega
  have hcommit : limit < word.length + 1 := by omega
  have hbreak : limit ≤ word.length := by omega
  simp [step, mustCommit, mustBreak, commit, breakLine, dropBlanks, await, fresh, hsolid, hwidth,
    hglyph, hcommit, hbreak]

theorem step_opened (hline : line ≠ []) (hg : g.Solid) (hroom : used + 1 + word.length + 1 ≤ limit) :
    (opened finished line used blank word afterWord).step limit true g =
      opened finished line used blank (word ++ [g]) true := by
  obtain ⟨hsolid, hwidth⟩ := hg
  have hglyph : ¬limit < 1 := by omega
  have hopen : ¬limit ≤ used := by omega
  have hfits : ¬limit ≤ used + 1 + word.length := by omega
  simp [step, mustCommit, mustBreak, await, opened, hsolid, hwidth, hline, hglyph, hopen, hfits]

theorem step_opened_full (hline : line ≠ []) (hblank : blank.Space) (hg : g.Solid)
    (hused : used + 1 ≤ limit) (hfull : limit ≤ used + 1 + word.length) :
    (opened finished line used blank word afterWord).step limit true g =
      fresh (line :: finished) (word ++ [g]) true := by
  obtain ⟨hsolid, hwidth⟩ := hg
  have hglyph : ¬limit < 1 := by omega
  have hroom : ¬limit - used < 1 := by omega
  simp [step, mustCommit, mustBreak, breakLine, dropBlanks, await, opened, fresh, hsolid, hwidth, hline,
    hblank.width, hglyph, hroom, hfull]

theorem step_fresh_blank (hword : word ≠ []) (hg : g.Space) (hroom : word.length ≤ limit) :
    (fresh finished word true).step limit true g =
      if word.length = limit then fresh (word :: finished) [] true
      else opened finished word word.length g [] false := by
  obtain ⟨hblank, hwidth⟩ := hg
  have hpos := List.length_pos_iff.2 hword
  have hglyph : ¬limit < 1 := by omega
  split
  · next hfull =>
    have hbreak : limit ≤ word.length := by omega
    simp [step, mustCommit, mustBreak, commit, breakLine, dropBlanks, fresh, hblank, hwidth, hglyph,
      hbreak]
  · next hless =>
    have hbreak : ¬limit ≤ word.length := by omega
    simp [step, mustCommit, mustBreak, commit, await, fresh, opened, hblank, hwidth, hglyph, hbreak]

theorem step_opened_blank (hline : line ≠ []) (hg : g.Space)
    (hroom : used + 1 + word.length ≤ limit) :
    (opened finished line used blank word true).step limit true g =
      if used + 1 + word.length = limit then
        fresh ((line ++ [blank] ++ word) :: finished) [] true
      else opened finished (line ++ [blank] ++ word) (used + 1 + word.length) g [] false := by
  obtain ⟨hblank, hwidth⟩ := hg
  have hglyph : ¬limit < 1 := by omega
  split
  · next hfull =>
    have hbreak : limit ≤ used + 1 + word.length := by omega
    simp [step, mustCommit, mustBreak, commit, breakLine, dropBlanks, fresh, opened, hblank, hwidth,
      hline, hglyph, hbreak]
  · next hless =>
    have hbreak : ¬limit ≤ used + 1 + word.length := by omega
    simp [step, mustCommit, mustBreak, commit, await, opened, hblank, hwidth, hline, hglyph, hbreak]

theorem foldl_fresh (hgs : ∀ g ∈ gs, g.Solid) (hroom : word.length + gs.length ≤ limit) :
    gs.foldl (step limit true) (fresh finished word afterWord) =
      fresh finished (word ++ gs) (afterWord || !gs.isEmpty) := by
  induction gs generalizing word afterWord with
  | nil => simp
  | cons g gs ih =>
    obtain ⟨hg, hgs⟩ := List.forall_mem_cons.1 hgs
    rw [List.length_cons] at hroom
    rw [List.foldl_cons, step_fresh hg (by omega),
      ih hgs (by rw [List.length_append, List.length_singleton]; omega)]
    simp

theorem foldl_opened (hline : line ≠ []) (hgs : ∀ g ∈ gs, g.Solid)
    (hroom : used + 1 + word.length + gs.length ≤ limit) :
    gs.foldl (step limit true) (opened finished line used blank word afterWord) =
      opened finished line used blank (word ++ gs) (afterWord || !gs.isEmpty) := by
  induction gs generalizing word afterWord with
  | nil => simp
  | cons g gs ih =>
    obtain ⟨hg, hgs⟩ := List.forall_mem_cons.1 hgs
    rw [List.length_cons] at hroom
    rw [List.foldl_cons, step_opened hline hg (by omega),
      ih hgs (by rw [List.length_append, List.length_singleton]; omega)]
    simp

theorem foldl_opened_full (hline : line ≠ []) (hblank : blank.Space) (hgs : ∀ g ∈ gs, g.Solid)
    (hused : used + 1 + word.length ≤ limit) (hlength : word.length + gs.length ≤ limit)
    (hlong : limit < used + 1 + word.length + gs.length) :
    gs.foldl (step limit true) (opened finished line used blank word afterWord) =
      fresh (line :: finished) (word ++ gs) true := by
  induction gs generalizing word afterWord with
  | nil => exact absurd hlong (Nat.not_lt.2 hused)
  | cons g gs ih =>
    obtain ⟨hg, hgs⟩ := List.forall_mem_cons.1 hgs
    rw [List.length_cons] at hlength hlong
    have hmore : (word ++ [g]).length = word.length + 1 := by simp
    rw [List.foldl_cons]
    by_cases hroom : used + 1 + word.length + 1 ≤ limit
    · rw [step_opened hline hg hroom, ih hgs (by omega) (by omega) (by omega)]
      simp
    · rw [step_opened_full hline hblank hg (by omega) (by omega), foldl_fresh hgs (by omega)]
      simp

/-- What a state between parts of words is to greedy filling. -/
inductive Ready (limit : Nat) : State → Greedy → Prop
  | behind (finished : List (List Glyph)) (line : List Glyph) (used : Nat) (blank : Glyph)
      (afterWord : Bool) (hline : line ≠ []) (hblank : blank.Space) (hused : used + 1 ≤ limit) :
    Ready limit (opened finished line used blank [] afterWord) ⟨finished.length + 1, used + 1⟩
  | empty (finished : List (List Glyph)) (afterWord : Bool) (used : Nat) (hused : limit ≤ used) :
    Ready limit (fresh finished [] afterWord) ⟨finished.length, used⟩
  | full (finished : List (List Glyph)) (word : List Glyph) (afterWord : Bool)
      (hword : word.length = limit) :
    Ready limit (fresh finished word afterWord) ⟨finished.length + 1, limit⟩

inductive Holds (limit : Nat) : State → Greedy → Prop
  | behind (finished : List (List Glyph)) (line : List Glyph) (used : Nat) (blank : Glyph)
      (word : List Glyph) (hline : line ≠ []) (hused : used + 1 + word.length ≤ limit) :
    Holds limit (opened finished line used blank word true)
      ⟨finished.length + 1, used + 1 + word.length⟩
  | alone (finished : List (List Glyph)) (word : List Glyph) (hword : word ≠ [])
      (hroom : word.length ≤ limit) :
    Holds limit (fresh finished word true) ⟨finished.length + 1, word.length⟩

variable {s : State} {n : Greedy}

theorem Ready.foldl_new (h : Ready limit s n) (hgs : Piece limit gs)
    (hlong : limit < n.used + gs.length) : ∃ finished, finished.length = n.lines ∧
      gs.foldl (step limit true) s = fresh finished gs true := by
  obtain ⟨hvisible, hlength, hsolid⟩ := hgs
  have hne : gs.isEmpty = false := List.isEmpty_eq_false_iff.2 (List.ne_nil_of_length_pos hvisible)
  cases h with
  | behind finished line used blank afterWord hline hblank hused =>
    refine ⟨line :: finished, rfl, ?_⟩
    rw [foldl_opened_full hline hblank hsolid hused (by simpa using hlength) hlong]
    rfl
  | empty finished afterWord used hused =>
    refine ⟨finished, rfl, ?_⟩
    rw [foldl_fresh hsolid (by simpa using hlength)]
    simp [hne]
  | full finished word afterWord hword =>
    refine ⟨word :: finished, rfl, ?_⟩
    cases gs with
    | nil => exact absurd hne nofun
    | cons g gs =>
      obtain ⟨hg, hsolid⟩ := List.forall_mem_cons.1 hsolid
      rw [List.length_cons] at hlength
      rw [List.foldl_cons, step_fresh_full (by omega) hg hword,
        foldl_fresh hsolid (by rw [List.length_singleton]; omega)]
      rfl

theorem Ready.holds (h : Ready limit s n) (hgs : Piece limit gs) :
    Holds limit (gs.foldl (step limit true) s) (n.put limit ⟨gs.length, 0⟩) := by
  rw [Greedy.put]
  split
  · next hroom =>
    obtain ⟨hvisible, hlength, hsolid⟩ := hgs
    have hne : gs.isEmpty = false := List.isEmpty_eq_false_iff.2 (List.ne_nil_of_length_pos hvisible)
    cases h with
    | behind finished line used blank afterWord hline hblank hused =>
      rw [foldl_opened hline hsolid hroom, hne, Bool.not_false, Bool.or_true]
      exact .behind finished line used blank gs hline hroom
    | empty finished afterWord used hused => simp only at hroom; omega
    | full finished word afterWord hword => simp only at hroom; omega
  · next hlong =>
    obtain ⟨finished, hfinished, heq⟩ := h.foldl_new hgs (Nat.lt_of_not_le hlong)
    rw [heq, ← hfinished]
    exact .alone finished gs (List.ne_nil_of_length_pos hgs.visible) hgs.length_le

theorem Ready.full_of_length (h : Ready limit s n) (hgs : Piece limit gs) (hfull : gs.length = limit) :
    Ready limit (gs.foldl (step limit true) s) (n.put limit ⟨gs.length, 0⟩) := by
  have hvisible := hgs.visible
  have hused : 1 ≤ n.used := by
    cases h <;> simp only <;> omega
  have hlong : limit < n.used + gs.length := by omega
  obtain ⟨finished, hfinished, heq⟩ := h.foldl_new hgs hlong
  have hready : Ready limit (fresh finished gs true) ⟨finished.length + 1, limit⟩ :=
    .full finished gs true hfull
  rw [heq, Greedy.put, if_neg (Nat.not_le.2 hlong), ← hfinished]
  simpa only [hfull, Nat.add_zero] using hready

theorem Holds.step_blank (h : Holds limit s n) (hg : g.Space) :
    Ready limit (s.step limit true g) ⟨n.lines, n.used + 1⟩ := by
  cases h with
  | behind finished line used blank word hline hused =>
    rw [step_opened_blank hline hg hused]
    split
    · next hfull => exact .empty _ _ _ (by simp only; omega)
    · next hless => exact .behind _ _ _ _ _ (by simp) hg (by omega)
  | alone finished word hword hroom =>
    rw [step_fresh_blank hword hg hroom]
    split
    · next hfull => exact .empty _ _ _ (by simp only; omega)
    · next hless => exact .behind _ _ _ _ _ hword hg (by omega)

theorem Holds.length_finish (h : Holds limit s n) : (s.finish true).length = n.lines := by
  cases h with
  | behind finished line used blank word hline hused => simp [finish, commit, opened, hline]
  | alone finished word hword hroom => simp [finish, commit, fresh, hword]

theorem Ready.length_finish {fs : List Fragment} (h : Ready limit s n) (hgs : Pieces limit fs gs) :
    ((gs.foldl (step limit true) s).finish true).length = (fs.foldl (.put limit) n).lines := by
  induction hgs generalizing s n with
  | last hgs => exact (h.holds hgs).length_finish
  | broken hgs hfull hrest ih =>
    rw [List.foldl_append, List.foldl_cons]
    exact ih (h.full_of_length hgs hfull)
  | @spaced gs rest g fs hgs hg hrest ih =>
    rw [List.foldl_append, List.foldl_cons, List.foldl_cons]
    have hblank : Greedy.put limit n ⟨gs.length, 1⟩ =
        ⟨(n.put limit ⟨gs.length, 0⟩).lines, (n.put limit ⟨gs.length, 0⟩).used + 1⟩ := by
      simp only [Greedy.put]
      split <;> rfl
    rw [hblank]
    exact ih ((h.holds hgs).step_blank hg)

end State

/-- Words with single blanks between them are broken greedily into lines. -/
theorem Pieces.length_wrap {fs : List Fragment} (h : Pieces limit fs gs) :
    (wrap limit true gs).length = (Text.Fill.greedy limit fs).lines :=
  (State.Ready.empty [] false limit (Nat.le_refl limit)).length_finish h

namespace State

variable {s : State}

theorem lineWidth_commit_le (s : State) :
    (s.commit true).lineWidth + (s.commit true).blanksWidth + (s.commit true).wordWidth ≤
      s.lineWidth + s.blanksWidth + s.wordWidth := by
  simp only [commit]
  split <;> omega

theorem finished_step (hvisible : 1 ≤ g.width)
    (hroom : s.lineWidth + s.blanksWidth + s.wordWidth + g.width ≤ limit) :
    (s.step limit true g).finished = s.finished ∧
      (s.step limit true g).lineWidth + (s.step limit true g).blanksWidth +
        (s.step limit true g).wordWidth ≤ s.lineWidth + s.blanksWidth + s.wordWidth + g.width := by
  have hcommit := s.lineWidth_commit_le
  have hwidth : ¬limit < g.width := by omega
  obtain ⟨m, hm, hfinished, hused⟩ : ∃ m, (if s.mustCommit limit true g then s.commit true else s) = m ∧
      m.finished = s.finished ∧
      m.lineWidth + m.blanksWidth + m.wordWidth ≤ s.lineWidth + s.blanksWidth + s.wordWidth := by
    split
    · exact ⟨_, rfl, rfl, hcommit⟩
    · exact ⟨_, rfl, rfl, Nat.le_refl _⟩
  have hline : ¬limit ≤ m.lineWidth := by omega
  have hall : ¬limit ≤ m.lineWidth + m.blanksWidth + m.wordWidth := by omega
  simp only [step, if_neg hwidth, hm, mustBreak, hline, hall, decide_false, Bool.and_false,
    Bool.or_false, Bool.false_eq_true, if_false, await]
  split <;> exact ⟨hfinished, by simp only; omega⟩

theorem finished_foldl (hvisible : ∀ g ∈ gs, 1 ≤ g.width)
    (hroom : s.lineWidth + s.blanksWidth + s.wordWidth + columns gs ≤ limit) :
    (gs.foldl (step limit true) s).finished = s.finished := by
  induction gs generalizing s with
  | nil => rfl
  | cons g gs ih =>
    obtain ⟨hg, hvisible⟩ := List.forall_mem_cons.1 hvisible
    rw [columns, total_cons] at hroom
    have hstep : s.lineWidth + s.blanksWidth + s.wordWidth + g.width ≤ limit := by omega
    obtain ⟨hfinished, hused⟩ := finished_step hg hstep
    rw [List.foldl_cons, ih hvisible (by rw [columns]; omega), hfinished]

theorem length_finish_of_finished (h : s.finished = []) : (s.finish true).length = 1 := by
  rcases hlone : s.line.isEmpty && s.word.isEmpty && !s.blanks.isEmpty with - | -
  · cases hlast : (s.commit true).line with
    | nil => simp [finish, h, hlone, hlast]
    | cons g gs => simp [finish, h, hlone, hlast]
  · simp only [Bool.and_eq_true, List.isEmpty_iff] at hlone
    simp [finish, commit, h, hlone.1.1, hlone.1.2, hlone.2]

end State

/-- A line that fits is not broken. -/
theorem length_wrap_of_columns_le (hvisible : ∀ g ∈ gs, 1 ≤ g.width) (hroom : columns gs ≤ limit) :
    (wrap limit true gs).length = 1 :=
  State.length_finish_of_finished (State.finished_foldl hvisible ((Nat.zero_add _).symm ▸ hroom))

end Wrap

end SuggestionReview
