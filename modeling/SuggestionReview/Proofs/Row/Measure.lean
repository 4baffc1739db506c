import Mathlib.Data.List.Basic
import Mathlib.Data.Option.Basic
import SuggestionReview.Review.Draw

namespace SuggestionReview

namespace Row

variable {ε ν : Type} [PayloadEditor ε] {r : Row ε ν} {rows : List (Row ε ν)}
  {heights : List Nat} {width height : Nat}

variable [Viewer ν]

def wantedContent? (r : Row ε ν) (width : Nat) : Option Nat :=
  match r.content, r.viewer with
  | .code text, .failed _ => some (max (toWord (Text.lines text).length) 1 + 1)
  | _, _ => r.contentHeight? width

/-- The rows of the screen that a row asks for, however many they are. -/
def wanted? (r : Row ε ν) (width : Nat) : Option Nat :=
  (r.wantedContent? width).map (1 + · + if r.bordered then 1 else 0)

/-- A row says how high it is exactly where it does not ask for too many rows. -/
theorem height?_eq_some_iff_wanted? :
    r.height? width = some height ↔ r.wanted? width = some height ∧ height < 65536 := by
  rw [height?_eq_some_iff, wanted?, wantedContent?]
  generalize (if r.bordered then 1 else 0) = lines
  split
  · next text reason hcode hfailed =>
    have hcontent : r.contentHeight? width =
        addWords? (max (toWord (Text.lines text).length) 1) 1 := by
      rw [contentHeight?, hcode]
      simp only [hfailed, ViewerSlot.height?]
    simp only [hcontent, addWords?_eq_some_iff, Option.map_some, Option.some.injEq]
    constructor
    · intro h
      obtain ⟨_, ⟨rfl, -⟩, hheight⟩ := h
      exact hheight
    · intro h
      obtain ⟨rfl, hlt⟩ := h
      exact ⟨_, ⟨rfl, by omega⟩, rfl, hlt⟩
  · rw [Option.map_eq_some_iff]
    simp only [← and_assoc, exists_and_right]

theorem one_le_of_height? (h : r.height? width = some height) : 1 ≤ height := by
  obtain ⟨content, -, rfl, -⟩ := height?_eq_some_iff.1 h
  omega

/-- Whether the view of a row's code does not say how many rows it asks for. -/
def Silent (r : Row ε ν) (width : Nat) : Prop :=
  ∃ text view, r.content = .code text ∧ r.viewer = .ready view ∧
    Viewer.height? view text width = none

theorem silent_of_wanted? (h : r.wanted? width = none) : r.Silent width := by
  have hcontent : r.wantedContent? width = none := Option.map_eq_none_iff.1 h
  rw [wantedContent?] at hcontent
  split at hcontent
  · exact absurd hcontent (Option.some_ne_none _)
  · next hnotFailed =>
    unfold contentHeight? at hcontent
    split at hcontent
    case h_4 text hcode =>
      unfold ViewerSlot.height? at hcontent
      split at hcontent
      · next view hview => exact ⟨text, view, hcode, hview, hcontent⟩
      · next reason hfailed => exact absurd hfailed (hnotFailed text reason hcode)
      · exact absurd hcontent (Option.some_ne_none _)
    all_goals exact absurd hcontent (Option.some_ne_none _)

def Measure (width : Nat) (rows : List (Row ε ν)) (heights : List Nat) : Prop :=
  rows.map (·.height? width) = heights.map some

theorem measure_cons {n : Nat} :
    Measure width (r :: rows) (n :: heights) ↔
      r.height? width = some n ∧ Measure width rows heights := by
  rw [Measure, List.map_cons, List.map_cons, List.cons_eq_cons]
  rfl

theorem not_measure_cons_nil : ¬Measure width (r :: rows) [] := List.cons_ne_nil _ _

theorem Measure.length (h : Measure width rows heights) : heights.length = rows.length := by
  simpa using congrArg List.length h.symm

theorem Measure.unique {heights' : List Nat} (h : Measure width rows heights)
    (h' : Measure width rows heights') : heights = heights' :=
  List.map_injective_iff.2 (Option.some_injective Nat) (h.symm.trans h')

theorem Measure.take (h : Measure width rows heights) (n : Nat) :
    Measure width (rows.take n) (heights.take n) := by
  rw [Measure, List.map_take, h, List.map_take]

theorem Measure.drop (h : Measure width rows heights) (n : Nat) :
    Measure width (rows.drop n) (heights.drop n) := by
  rw [Measure, List.map_drop, h, List.map_drop]

theorem Measure.one_le (h : Measure width rows heights) : ∀ n ∈ heights, 1 ≤ n := by
  intro n hn
  have hmem : some n ∈ rows.map (·.height? width) := by
    rw [h]
    exact List.mem_map_of_mem hn
  obtain ⟨r, -, hr⟩ := List.mem_map.1 hmem
  exact one_le_of_height? hr

theorem exists_wanted (h : ∀ r ∈ rows, ¬r.Silent width) :
    ∃ wanted : List Nat, rows.map (·.wanted? width) = wanted.map some := by
  induction rows with
  | nil => exact ⟨[], rfl⟩
  | cons r rows ih =>
    obtain ⟨hr, hrows⟩ := List.forall_mem_cons.1 h
    obtain ⟨wanted, hwanted⟩ := ih hrows
    obtain ⟨n, hn⟩ := Option.ne_none_iff_exists'.1 fun hnone ↦ hr (silent_of_wanted? hnone)
    exact ⟨n :: wanted, by rw [List.map_cons, List.map_cons, hn, hwanted]⟩

theorem measure_of_wanted {wanted : List Nat}
    (h : rows.map (·.wanted? width) = wanted.map some) (hlt : total id wanted < 65536) :
    Measure width rows wanted := by
  induction rows generalizing wanted with
  | nil => exact h
  | cons r rows ih =>
    cases wanted with
    | nil => exact absurd h (List.cons_ne_nil _ _)
    | cons n wanted =>
      obtain ⟨hr, hrows⟩ := List.cons.inj h
      have hn : n + total id wanted < 65536 := hlt
      have hheight : r.height? width = some n :=
        height?_eq_some_iff_wanted?.2 ⟨hr, Nat.lt_of_le_of_lt (Nat.le_add_right _ _) hn⟩
      have hrest : Measure width rows wanted :=
        ih hrows (Nat.lt_of_le_of_lt (Nat.le_add_left _ _) hn)
      exact measure_cons.2 ⟨hheight, hrest⟩

end Row

namespace Review

open Row (Measure measure_cons not_measure_cons_nil)

variable {ε ν : Type} [PayloadEditor ε] [Viewer ν] {rows : List (Row ε ν)} {width : Nat}

/-- Adding up goes wrong exactly where the sum does. -/
theorem foldlM_heights {used sum : Nat} (hused : used < 65536) :
    rows.foldlM (fun used r ↦ (r.height? width).bind (addWords? used)) used = some sum ↔
      ∃ heights, Measure width rows heights ∧ used + total id heights = sum ∧ sum < 65536 := by
  induction rows generalizing used with
  | nil =>
    rw [List.foldlM_nil]
    constructor
    · intro h
      obtain rfl := Option.some.inj h
      exact ⟨[], rfl, rfl, hused⟩
    · intro h
      obtain ⟨heights, hheights, rfl, -⟩ := h
      obtain rfl := List.map_eq_nil_iff.1 hheights.symm
      rfl
  | cons r rows ih =>
    rw [List.foldlM_cons]
    constructor
    · intro h
      obtain ⟨used', hused', h⟩ := Option.bind_eq_some_iff.1 h
      obtain ⟨n, hn, hadd⟩ := Option.bind_eq_some_iff.1 hused'
      obtain ⟨rfl, hlt⟩ := addWords?_eq_some_iff.1 hadd
      obtain ⟨heights, hheights, hsum, hlast⟩ := (ih hlt).1 h
      refine ⟨n :: heights, measure_cons.2 ⟨hn, hheights⟩, ?_, hlast⟩
      rwa [total_cons, ← Nat.add_assoc]
    · intro h
      obtain ⟨heights, hheights, hsum, hlt⟩ := h
      cases heights with
      | nil => exact absurd hheights not_measure_cons_nil
      | cons n heights =>
        obtain ⟨hn, hrows⟩ := measure_cons.1 hheights
        rw [total_cons, id, ← Nat.add_assoc] at hsum
        have hfirst : used + n < 65536 := by omega
        refine Option.bind_eq_some_iff.2
          ⟨used + n, ?_, (ih hfirst).2 ⟨heights, hrows, hsum, hlt⟩⟩
        exact Option.bind_eq_some_iff.2 ⟨n, hn, addWords?_of_lt hfirst⟩

theorem totalHeight?_eq_some_iff {used : Nat} :
    totalHeight? width rows = some used ↔
      ∃ heights, Measure width rows heights ∧ total id heights = used ∧ used < 65536 := by
  rw [totalHeight?, foldlM_heights (Nat.zero_lt_succ _)]
  simp only [Nat.zero_add]

end Review

end SuggestionReview
