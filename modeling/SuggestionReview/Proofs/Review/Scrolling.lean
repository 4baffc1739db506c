import SuggestionReview.Proofs.Review.Placement

namespace SuggestionReview

open Row (Measure)

variable {ε ν : Type} [PayloadEditor ε] [Viewer ν]

namespace Review

variable {l l' : Review ε ν} {a : Area} {c : Canvas} {f : Frame ε ν} {width height offset n : Nat}
  {heights : List Nat}

def FitsFrom (l : Review ε ν) (width height first : Nat) : Prop :=
  ∃ heights, Measure width ((l.rows.take (l.selected + 1)).drop first) heights ∧
    total id heights ≤ height

def linesBetween (heights : List Nat) (first last : Nat) : Nat :=
  total id ((heights.take (last + 1)).drop first)

theorem fitsFrom_iff (h : Measure width l.rows heights) (first : Nat) :
    l.FitsFrom width height first ↔ linesBetween heights first l.selected ≤ height := by
  have hmeasure := (h.take (l.selected + 1)).drop first
  constructor
  · rintro ⟨heights', h', hfits⟩
    rwa [linesBetween, hmeasure.unique h']
  · exact fun hfits ↦ ⟨_, hmeasure, hfits⟩

def stops (l : Review ε ν) (width height first : Nat) : Set Nat :=
  {o | first ≤ o ∧ o ≤ l.selected ∧ (l.FitsFrom width height o ∨ o = l.selected)}

/-- The search for the offset goes on from a position until it comes to one where it may stop. -/
theorem isLeast_offsetFrom? (hs : l.selected < l.rows.length) (hn : l.selected < offset + n)
    {found : Nat} (ho : offset ≤ l.selected)
    (h : l.offsetFrom? width height n offset = some found) :
    IsLeast (l.stops width height offset) found := by
  induction n generalizing offset with
  | zero => omega
  | succ n ih =>
    simp only [offsetFrom?, rowsBetween?_eq_some ho hs, Option.bind_some] at h
    split at h
    · exact absurd h.symm (Option.some_ne_none found)
    · next used hused =>
      obtain ⟨heights, hheights, rfl, -⟩ := totalHeight?_eq_some_iff.1 hused
      split at h
      · next hstop =>
        obtain rfl := Option.some.inj h
        rw [Bool.or_eq_true, decide_eq_true_iff, decide_eq_true_iff] at hstop
        refine ⟨⟨Nat.le_refl _, ho, hstop.imp_left fun hfits ↦ ⟨heights, hheights, hfits⟩⟩, ?_⟩
        exact fun o ho ↦ ho.1
      · next hmore =>
        rw [Bool.or_eq_true, decide_eq_true_iff, decide_eq_true_iff, not_or] at hmore
        obtain ⟨hstays, hbelow⟩ := ih (by omega) (by omega) h
        refine ⟨⟨by exact (Nat.le_succ _).trans hstays.1, hstays.2⟩, fun o hstop ↦ ?_⟩
        refine hbelow ⟨Nat.succ_le_of_lt (Nat.lt_of_le_of_ne hstop.1 ?_), hstop.2⟩
        -- the search would have stopped here
        rintro rfl
        rcases hstop.2.2 with ⟨heights', hheights', hfits⟩ | rfl
        · exact hmore.1 (hheights.unique hheights' ▸ hfits)
        · exact hmore.2 rfl

/-- Where a review scrolls to: up to the selected row if that is above, and else down to the first
position from which it fits. -/
def ScrollsTo (l : Review ε ν) (width height first : Nat) : Prop :=
  if l.selected < l.offset then first = l.selected
  else IsLeast (l.stops width height l.offset) first

theorem scrollsTo_of_scrolled? (hs : l.selected < l.rows.length)
    (h : l.scrolled? width height = some l') : l.ScrollsTo width height l'.offset := by
  rw [scrolled?] at h
  rw [ScrollsTo]
  split at h
  · next habove =>
    obtain rfl := Option.some.inj h
    exact if_pos habove ▸ rfl
  · next hbelow =>
    obtain ⟨offset, hoffset, rfl⟩ := Option.map_eq_some_iff.1 h
    rw [if_neg hbelow]
    exact isLeast_offsetFrom? hs (by omega) (by omega) hoffset

theorem ScrollsTo.le_selected {first : Nat} (h : l.ScrollsTo width height first) :
    first ≤ l.selected := by
  rw [ScrollsTo] at h
  split at h
  · exact Nat.le_of_eq h
  · exact h.1.2.1

theorem ScrollsTo.fitsFrom {first : Nat} (h : l.ScrollsTo width height first) :
    l.FitsFrom width height first ∨ first = l.selected := by
  rw [ScrollsTo] at h
  split at h
  · exact .inr h
  · exact h.1.2.2

theorem linesBetween_eq {first last wanted : Nat} (hfirst : first ≤ last)
    (hwanted : heights[last]? = some wanted) :
    linesBetween heights first last = total id ((heights.drop first).take (last - first)) + wanted := by
  have hlast : (heights.drop first)[last - first]? = some wanted := by
    rw [List.getElem?_drop, ← hwanted]
    congr 1
    omega
  have hsplit : (heights.take (last + 1)).drop first =
      (heights.drop first).take (last - first) ++ [wanted] := by
    rw [List.drop_take, Nat.succ_sub hfirst, List.take_add_one, hlast]
    rfl
  rw [linesBetween, hsplit, total_append]
  rfl

/-- Whether rows of some heights are placed as they should be when they are shown from a position on
over some areas inside an area. -/
structure KeepsInView (l : Review ε ν) (a : Area) (heights : List Nat) (first : Nat)
    (areas : List Area) : Prop where
  first_le : first ≤ l.selected
  selected_lt : l.selected < l.rows.length
  above : l.selected < l.offset → first = l.selected
  below : l.offset ≤ l.selected → IsLeast {o | l.offset ≤ o ∧ o ≤ l.selected ∧
    (linesBetween heights o l.selected ≤ a.height ∨ o = l.selected)} first
  stacked : a.Stacked areas
  /-- Every row that has an area has all its lines, unless the area ends before. -/
  whole : ∀ i b wanted, areas[i]? = some b → heights[first + i]? = some wanted →
    b.height = min wanted (a.bottom - b.y)
  /-- A row has no area only where no line is left. -/
  cut : areas.length < l.rows.length - first → total (·.height) areas = a.height
  selected_whole : ∀ wanted, heights[l.selected]? = some wanted → wanted ≤ a.height →
    ∃ b, areas[l.selected - first]? = some b ∧ b.height = wanted
  selected_cut : ∀ wanted, heights[l.selected]? = some wanted → a.height < wanted →
    first = l.selected ∧ areas.head? = if a.height = 0 then none else some a

theorem getElem?_areas (hheights : Measure a.width l.rows heights) {i wanted : Nat}
    (hwanted : heights[offset + i]? = some wanted) : (a.forRows (l.rows.drop offset))[i]? =
      if total id ((heights.drop offset).take i) < a.height then
        some ⟨a.x, a.y + total id ((heights.drop offset).take i), a.width,
          min wanted (a.height - total id ((heights.drop offset).take i))⟩
      else none := by
  have hmeasure : Measure a.width (l.rows.drop offset) (heights.drop offset) := hheights.drop offset
  rw [← List.getElem?_drop] at hwanted
  refine Area.getElem?_forRows ?_ hwanted
  rw [hmeasure.length, List.take_length]
  exact hmeasure

/-- The rows up to the selected one fit, unless that is the first of them. -/
theorem ScrollsTo.fits_or_first (h : l.ScrollsTo a.width a.height offset)
    (hheights : Measure a.width l.rows heights) {wanted : Nat}
    (hwanted : heights[l.selected]? = some wanted) :
    total id ((heights.drop offset).take (l.selected - offset)) + wanted ≤ a.height ∨
      offset = l.selected := by
  rw [← linesBetween_eq h.le_selected hwanted]
  exact h.fitsFrom.imp_left (fitsFrom_iff hheights offset).1

theorem ScrollsTo.exists_area (h : l.ScrollsTo a.width a.height offset)
    (hheights : Measure a.width l.rows heights) {wanted : Nat}
    (hwanted : heights[l.selected]? = some wanted) (hfits : wanted ≤ a.height) :
    ∃ b, (a.forRows (l.rows.drop offset))[l.selected - offset]? = some b ∧ b.height = wanted := by
  have hpos : 1 ≤ wanted := hheights.one_le wanted (List.mem_of_getElem? hwanted)
  have hroom : total id ((heights.drop offset).take (l.selected - offset)) + wanted ≤ a.height := by
    refine (h.fits_or_first hheights hwanted).elim id fun hfirst ↦ ?_
    rwa [hfirst, Nat.sub_self, List.take_zero, total_nil, Nat.zero_add]
  rw [← Nat.add_sub_cancel' h.le_selected] at hwanted
  refine ⟨_, (getElem?_areas hheights hwanted).trans (if_pos (by omega)), ?_⟩
  exact Nat.min_eq_left (by omega)

theorem ScrollsTo.head?_areas (h : l.ScrollsTo a.width a.height offset)
    (hheights : Measure a.width l.rows heights) {wanted : Nat}
    (hwanted : heights[l.selected]? = some wanted) (hmore : a.height < wanted) :
    offset = l.selected ∧
      (a.forRows (l.rows.drop offset)).head? = if a.height = 0 then none else some a := by
  have hfirst : offset = l.selected := (h.fits_or_first hheights hwanted).resolve_left (by omega)
  refine ⟨hfirst, ?_⟩
  rw [← hfirst] at hwanted
  have hplace := getElem?_areas (i := 0) hheights hwanted
  rw [List.take_zero, total_nil] at hplace
  rw [List.head?_eq_getElem?, hplace]
  by_cases hempty : a.height = 0
  · rw [if_pos hempty, if_neg (by omega)]
  · rw [if_neg hempty, if_pos (by omega), Nat.sub_zero, Nat.min_eq_right (by omega)]
    rfl

theorem ScrollsTo.keepsInView (h : l.ScrollsTo a.width a.height offset)
    (hs : l.selected < l.rows.length) (hheights : Measure a.width l.rows heights) :
    l.KeepsInView a heights offset (a.forRows (l.rows.drop offset)) := by
  refine ⟨h.le_selected, hs, fun habove ↦ ?_, fun hbelow ↦ ?_, Area.stacked_forRows a _, ?_,
    fun hcut ↦ ?_, fun _ hwanted hfits ↦ h.exists_area hheights hwanted hfits,
    fun _ hwanted hmore ↦ h.head?_areas hheights hwanted hmore⟩
  · rwa [ScrollsTo, if_pos habove] at h
  · rw [ScrollsTo, if_neg (Nat.not_lt.2 hbelow), stops] at h
    simp only [fitsFrom_iff hheights] at h
    exact h
  · intro i b wanted hb hwanted
    rw [getElem?_areas hheights hwanted] at hb
    split at hb
    · obtain rfl := Option.some.inj hb
      simp only [Area.bottom]
      omega
    · exact absurd hb.symm (Option.some_ne_none b)
  · refine Area.total_height_forRows (hheights.drop offset) ?_
    rwa [List.length_drop]

/-- In every review that is reached, where the heights of all rows can be added up, every frame is
drawn and scrolls as far as it must and no further: rows of the list are placed one below the other
from some position on, none of them below the selected row; the selected row is among them with all
its lines, or it is the first one and takes all lines that there are. -/
theorem keepsInView_performAll? {file : SuggestionFile} {palette : Palette} {b : Bindings}
    {editor : ε} {choices : List (Choice ν)} {os : List (Operation ν)}
    (h : (built file palette b editor choices).performAll? os = some l) (hrows : l.rows ≠ [])
    (hheights : Measure a.width l.rows heights) (hsum : total id heights < 65536) (c : Canvas) :
    ∃ f first areas, l.draw? a c = some f ∧ l.Shows a c f first areas ∧
      l.KeepsInView (listArea a) heights first areas := by
  have hl : l.Coherent := performAll?_invariant (fun _ _ _ hp hl ↦ hl.perform hp)
    (coherent_built file palette b editor choices) h
  have hs : l.selected < l.rows.length :=
    hl.selected.resolve_right fun hnil ↦ hrows (List.length_eq_zero_iff.1 hnil.1)
  obtain ⟨f, hf⟩ := Option.isSome_iff_exists.1 (hl.isSome_draw? hheights hsum c)
  obtain ⟨hscrolled, -, hshows⟩ := shows_of_draw? hf hrows
  have hscrolls : l.ScrollsTo (listArea a).width (listArea a).height f.review.offset :=
    (scrollsTo_of_scrolled? hs hscrolled :)
  exact ⟨f, _, _, hf, hshows, hscrolls.keepsInView hs hheights⟩

/-- The third row has two lines of the three that there are, and is drawn with both. -/
theorem keepsInView_performAll?_third :
    ∃ l ∈ (built (.sums 3) .dark .standard DocumentEditor.empty [.borders true]).performAll?
        [.happens (.key (.press .down .none)), .happens (.key (.press .down .none))],
      l.selected = 2 ∧ ∃ f first areas,
        l.draw? ⟨0, 0, 20, 4⟩ (.blank 20 4) = some f ∧
          l.Shows ⟨0, 0, 20, 4⟩ (.blank 20 4) f first areas ∧
          l.KeepsInView ⟨0, 0, 20, 3⟩ [2, 2, 2] first areas ∧
          ∃ b, areas[2 - first]? = some b ∧ b.height = 2 := by
  have hrun : ∃ l ∈ performAll? (built (.sums 3) .dark .standard DocumentEditor.empty [.borders true])
      [.happens (.key (.press .down .none)), .happens (.key (.press .down .none))],
      l.rows.length = 3 ∧ l.selected = 2 ∧
        l.rows.map (·.height? 20) = [2, 2, 2].map some := by decide +kernel
  obtain ⟨l, hl, hlength, hselected, hheights⟩ := hrun
  have hrows : l.rows ≠ [] := List.ne_nil_of_length_pos (by omega)
  obtain ⟨f, first, areas, hf, hshows, hkeeps⟩ :=
    keepsInView_performAll? (a := ⟨0, 0, 20, 4⟩) hl hrows hheights (by decide) (.blank 20 4)
  have hwhole := hkeeps.selected_whole 2 (by rw [hselected]; rfl) (by decide)
  exact ⟨l, hl, hselected, f, first, areas, hf, hshows, hkeeps, hselected ▸ hwhole⟩

end Review

end SuggestionReview
