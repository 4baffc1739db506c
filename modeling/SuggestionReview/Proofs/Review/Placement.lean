import Mathlib.Data.List.Chain
import Mathlib.Order.Bounds.Basic
import SuggestionReview.Proofs.Review.Coherent

namespace SuggestionReview

variable {ε ν : Type} [PayloadEditor ε] [Viewer ν] {rows : List (Row ε ν)} {heights : List Nat}
  {a : Area}

open Row (Measure measure_cons not_measure_cons_nil)

namespace Area

def forRows (a : Area) : List (Row ε ν) → List Area
  | [] => []
  | r :: rest =>
    match r.height? a.width with
    | none => []
    | some h =>
      if a.height = 0 then [] else (a.splitTop h).1 :: (a.splitTop h).2.forRows rest

theorem forRows_of_height_eq_zero (h : a.height = 0) (rows : List (Row ε ν)) :
    a.forRows rows = [] := by
  cases rows with
  | nil => rfl
  | cons r rest =>
    rw [forRows]
    split
    · rfl
    · exact if_pos h

/-- A row begins below those before it, and what is too much of it is cut off. -/
theorem getElem?_forRows (h : Measure a.width (rows.take heights.length) heights) {i wanted : Nat}
    (hi : heights[i]? = some wanted) : (a.forRows rows)[i]? =
      if total id (heights.take i) < a.height then
        some ⟨a.x, a.y + total id (heights.take i), a.width,
          min wanted (a.height - total id (heights.take i))⟩
      else none := by
  induction heights generalizing a rows i with
  | nil => exact absurd hi nofun
  | cons n heights ih =>
    cases rows with
    | nil => exact absurd h nofun
    | cons r rows =>
      obtain ⟨hr, hrows⟩ := measure_cons.1 h
      simp only [forRows, hr]
      by_cases hempty : a.height = 0
      · simp [hempty]
      · rw [if_neg hempty]
        cases i with
        | zero =>
          obtain rfl := Option.some.inj hi
          have hpos : 0 < a.height := Nat.pos_of_ne_zero hempty
          simp [splitTop, hpos]
        | succ i =>
          have hbelow := ih (a := (a.splitTop n).2) hrows hi
          have hleft : (a.splitTop n).2.height = a.height - min n a.height := rfl
          have htaken : total id ((n :: heights).take (i + 1)) = n + total id (heights.take i) := rfl
          rw [List.getElem?_cons_succ, hbelow, htaken]
          by_cases hfits : n + total id (heights.take i) < a.height
          · have hn : min n a.height = n := by omega
            rw [if_pos (by omega), if_pos hfits]
            simp only [splitTop, hn]
            congr 2 <;> omega
          · rw [if_neg (by omega), if_neg hfits]

/-- Whether areas lie one below the other over the full width of an area, from its top on. -/
structure Stacked (a : Area) (areas : List Area) : Prop where
  inside : ∀ b ∈ areas, b.x = a.x ∧ b.width = a.width ∧ a.y ≤ b.y ∧ b.bottom ≤ a.bottom
  nonempty : ∀ b ∈ areas, 0 < b.height
  top : ∀ b ∈ areas.head?, b.y = a.y
  contiguous : areas.IsChain fun b b' ↦ b'.y = b.bottom
  disjoint : areas.Pairwise fun b b' ↦ b.bottom ≤ b'.y

theorem stacked_forRows (a : Area) (rows : List (Row ε ν)) : a.Stacked (a.forRows rows) := by
  induction rows generalizing a with
  | nil => exact ⟨nofun, nofun, nofun, .nil, .nil⟩
  | cons r rows ih =>
    rw [forRows]
    split
    · exact ⟨nofun, nofun, nofun, .nil, .nil⟩
    · next h hr =>
      split
      · exact ⟨nofun, nofun, nofun, .nil, .nil⟩
      · next hempty =>
        have hpos : 1 ≤ h := Row.one_le_of_height? hr
        have hbelow := ih (a.splitTop h).2
        have hinside : ∀ b ∈ (a.splitTop h).2.forRows rows,
            b.x = a.x ∧ b.width = a.width ∧ (a.splitTop h).1.bottom ≤ b.y ∧
              b.bottom ≤ a.bottom := by
          intro b hb
          obtain ⟨hx, hwidth, hy, hbottom⟩ := hbelow.inside b hb
          refine ⟨hx, hwidth, hy, hbottom.trans ?_⟩
          simp only [splitTop, bottom]
          omega
        refine ⟨?_, ?_, ?_, ?_, ?_⟩
        · refine List.forall_mem_cons.2 ⟨⟨rfl, rfl, Nat.le_refl _, ?_⟩, fun b hb ↦ ?_⟩
          · simp only [splitTop, bottom]
            omega
          · obtain ⟨hx, hwidth, hy, hbottom⟩ := hinside b hb
            exact ⟨hx, hwidth, (Nat.le_add_right _ _).trans hy, hbottom⟩
        · refine List.forall_mem_cons.2 ⟨?_, hbelow.nonempty⟩
          simp only [splitTop]
          omega
        · intro b hb
          obtain rfl := Option.some.inj hb
          rfl
        · exact List.isChain_cons.2 ⟨fun b hb ↦ hbelow.top b hb, hbelow.contiguous⟩
        · exact .cons (fun b hb ↦ (hinside b hb).2.2.1) hbelow.disjoint

theorem total_height_forRows (h : Measure a.width rows heights)
    (hcut : (a.forRows rows).length < rows.length) : total (·.height) (a.forRows rows) = a.height := by
  induction rows generalizing a heights with
  | nil => exact absurd hcut (Nat.not_lt_zero _)
  | cons r rows ih =>
    cases heights with
    | nil => exact absurd h not_measure_cons_nil
    | cons n heights =>
      obtain ⟨hr, hrows⟩ := measure_cons.1 h
      simp only [forRows, hr] at hcut ⊢
      by_cases hempty : a.height = 0
      · simp [hempty]
      · rw [if_neg hempty] at hcut ⊢
        have hbelow := ih (a := (a.splitTop n).2) hrows (Nat.lt_of_succ_lt_succ hcut)
        rw [total_cons, hbelow]
        simp only [splitTop]
        omega

end Area

namespace Review

variable {l : Review ε ν} {c : Canvas} {f : Frame ε ν} {width height offset : Nat}

def drawOver (source : ViewerSource ν) (c : Canvas) : List (Row ε ν) → List Area → Drawing ε ν
  | r :: rows, a :: areas =>
    let out := r.draw source a c
    let d := drawOver out.source out.canvas rows areas
    ⟨out.row :: d.rows, d.source, out.notices ++ d.notices, d.canvas⟩
  | rows, _ => ⟨rows, source, [], c⟩

theorem drawOver_nil (source : ViewerSource ν) (c : Canvas) (rows : List (Row ε ν)) :
    drawOver source c rows [] = ⟨rows, source, [], c⟩ := by
  cases rows <;> rfl

theorem drawRows?_eq {source : ViewerSource ν} {d : Drawing ε ν}
    (h : drawRows? source a.x a.y a.width a.bottom c rows = some d) :
    d = drawOver source c rows (a.forRows rows) := by
  induction rows generalizing a source c d with
  | nil => exact (Option.some.inj h).symm
  | cons r rows ih =>
    have hleft : a.bottom - a.y = a.height := Nat.add_sub_cancel_left ..
    rw [drawRows?] at h
    by_cases hempty : a.height = 0
    · rw [if_pos (by omega)] at h
      rw [Area.forRows_of_height_eq_zero hempty, drawOver_nil]
      exact (Option.some.inj h).symm
    · rw [if_neg (by omega)] at h
      cases hr : r.height? a.width with
      | none => simp [hr] at h
      | some wanted =>
        simp only [hr, hleft] at h
        obtain ⟨d', hd', rfl⟩ := Option.map_eq_some_iff.1 h
        have hbottom : (a.splitTop wanted).2.bottom = a.bottom := by
          simp only [Area.splitTop, Area.bottom]
          omega
        rw [Area.forRows, hr]
        simp only [if_neg hempty, drawOver]
        rw [← ih (a := (a.splitTop wanted).2) (hbottom ▸ hd')]
        rfl

theorem head?_forRows {source : ViewerSource ν} {r : Row ε ν} (ha : 0 < a.height)
    (h : (drawRows? source a.x a.y a.width a.bottom c (r :: rows)).isSome) :
    ∃ b, (a.forRows (r :: rows)).head? = some b := by
  have hline : ¬a.bottom ≤ a.y := by
    rw [Area.bottom]
    omega
  rw [drawRows?, if_neg hline] at h
  rw [Area.forRows]
  cases hr : r.height? a.width with
  | none =>
    rw [hr] at h
    exact absurd h Bool.false_ne_true
  | some wanted =>
    exact ⟨(a.splitTop wanted).1, by simp only [if_neg (Nat.ne_of_gt ha), List.head?_cons]⟩

def listArea (a : Area) : Area := (a.splitBottom 1).1

/-- Whether a frame shows rows from a position on over some areas, and the status below them. -/
structure Shows (l : Review ε ν) (a : Area) (c : Canvas) (f : Frame ε ν) (first : Nat)
    (areas : List Area) : Prop where
  offset : f.review.offset = first
  selected : f.review.selected = l.selected
  rows : f.review.rows = l.rows.take first ++ (drawOver l.source c (l.rows.drop first) areas).rows
  canvas : f.canvas = (drawOver l.source c (l.rows.drop first) areas).canvas.drawText
    (a.splitBottom 1).2 l.palette.mutedStyle (.clip 0) (plainLines f.review.statusLine)

theorem shows_of_draw? (h : l.draw? a c = some f) (hrows : l.rows ≠ []) :
    l.scrolled? (listArea a).width (listArea a).height = some { l with offset := f.review.offset } ∧
      (drawRows? l.source (listArea a).x (listArea a).y (listArea a).width (listArea a).bottom c
        (l.rows.drop f.review.offset)).isSome ∧
      l.Shows a c f f.review.offset ((listArea a).forRows (l.rows.drop f.review.offset)) := by
  obtain ⟨f', hf', rfl⟩ := Option.map_eq_some_iff.1 h
  have hempty : ¬l.rows.isEmpty = true := fun hnil ↦ hrows (List.isEmpty_iff.1 hnil)
  rw [drawList?, if_neg hempty] at hf'
  split at hf'
  · exact absurd hf'.symm (Option.some_ne_none f')
  · next m hm =>
    obtain ⟨offset, rfl⟩ := scrolled_eq hm
    obtain ⟨d, hd, rfl⟩ := Option.map_eq_some_iff.1 hf'
    have hdrawn := drawRows?_eq (a := listArea a) hd
    exact ⟨hm, Option.isSome_of_eq_some hd, rfl, rfl, hdrawn ▸ rfl, hdrawn ▸ rfl⟩

end Review

end SuggestionReview
