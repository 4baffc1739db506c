import Mathlib.Data.List.Induction
import SuggestionReview.Basic
import SuggestionReview.Text.Fill

namespace SuggestionReview.Text

structure Fragment.Fits (limit : Nat) (f : Fragment) : Prop where
  visible : 1 ≤ f.width
  width_le : f.width ≤ limit
  blanks_le : f.blanks ≤ 1

namespace Fill

def columns (fs : List Fragment) : Nat := total (fun f ↦ f.width + f.blanks) fs

@[simp]
theorem columns_append (fs fs' : List Fragment) : columns (fs ++ fs') = columns fs + columns fs' :=
  total_append _ fs fs'

@[simp]
theorem columns_concat (fs : List Fragment) (f : Fragment) :
    columns (fs ++ [f]) = columns fs + (f.width + f.blanks) := by
  rw [columns_append]
  rfl

/-- How many lines were begun, and the columns used of the last one with the blanks at its end. -/
structure Greedy where
  lines : Nat
  used : Nat
deriving DecidableEq

namespace Greedy

def start (limit : Nat) : Greedy := ⟨0, limit⟩

def put (limit : Nat) (g : Greedy) (f : Fragment) : Greedy :=
  if g.used + f.width ≤ limit then ⟨g.lines, g.used + f.width + f.blanks⟩
  else ⟨g.lines + 1, f.width + f.blanks⟩

end Greedy

def greedy (limit : Nat) (fs : List Fragment) : Greedy := fs.foldl (.put limit) (.start limit)

theorem greedy_append (limit : Nat) (fs fs' : List Fragment) :
    greedy limit (fs ++ fs') = fs'.foldl (.put limit) (greedy limit fs) :=
  List.foldl_append

variable {limit : Nat} {fs : List Fragment} {f : Fragment}

theorem foldl_put (g : Greedy) (h : columns fs ≤ limit) :
    (fs.foldl (.put limit) g).lines = g.lines ∨
      (fs.foldl (.put limit) g).lines = g.lines + 1 ∧
        (fs.foldl (.put limit) g).used ≤ columns fs := by
  induction fs using List.reverseRecOn with
  | nil => exact .inl rfl
  | append_singleton fs f ih =>
    rw [columns_concat] at h ⊢
    rw [List.foldl_append, List.foldl_cons, List.foldl_nil, Greedy.put]
    rcases ih (by omega) with hlines | ⟨hlines, hused⟩
    · split
      · exact .inl hlines
      · exact .inr ⟨congrArg (· + 1) hlines, Nat.le_add_left _ _⟩
    · -- what was put on the new line leaves room for what fits on one line with it
      rw [if_pos (by omega)]
      exact .inr ⟨hlines, by simp only; omega⟩

theorem lines_greedy_le {first : List Fragment} (h : columns fs + f.width ≤ limit) :
    (greedy limit (first ++ fs ++ [f])).lines ≤ (greedy limit first).lines + 1 := by
  rw [greedy_append, List.foldl_cons, List.foldl_nil, greedy_append, Greedy.put]
  rcases foldl_put (greedy limit first) (Nat.le_of_add_right_le h) with hlines | ⟨hlines, hused⟩
  · split
    · exact Nat.le_succ_of_le (Nat.le_of_eq hlines)
    · exact Nat.le_of_eq (congrArg (· + 1) hlines)
  · rw [if_pos (by omega)]
    exact Nat.le_of_eq hlines

open Filling (another lineCost best)

/-- It costs less to take the last fragment off a line that is too long than to leave it there. -/
theorem lineCost_add_lt {used blanks : Nat} {last single single' : Bool} (hlimit : limit ≤ 39)
    (hblanks : blanks ≤ 1) (hf : f.Fits limit) (hused : 1 ≤ used)
    (hlong : limit < used + blanks + f.width) :
    lineCost limit used false single + lineCost limit f.width last true <
      lineCost limit (used + blanks + f.width) last single' := by
  have hvisible := hf.visible
  have hwidth := hf.width_le
  -- both lines have something on them, and together little room is left
  have hsquare : ∀ n ≤ 38, n * n ≤ 38 * n := fun n hn ↦ Nat.mul_le_mul_right n hn
  have hroom := hsquare (limit - used) (by omega)
  have hroom' := hsquare (limit - f.width) (by omega)
  have hlittle : (limit - used) + (limit - f.width) ≤ 39 := by omega
  have hfirst : lineCost limit used false single ≤
      1000 + (limit - used) * (limit - used) + 2500 * (used - limit) := by
    simp only [lineCost]
    split
    · omega
    · exact Nat.le_add_right _ _
  have hsecond : lineCost limit f.width last true ≤
      1000 + max ((limit - f.width) * (limit - f.width)) 25 := by
    simp only [lineCost, if_neg (Nat.not_lt.2 hwidth)]
    cases last
    · exact Nat.add_le_add_left (Nat.le_max_left _ _) _
    · simp only [Bool.not_true, Bool.false_eq_true, if_false]
      split <;> omega
  have hone : lineCost limit (used + blanks + f.width) last single' =
      1000 + 2500 * (used + blanks + f.width - limit) := by
    rw [lineCost, if_pos hlong]
  omega

variable {fillings : List Filling} {s : Filling}

theorem exists_of_best {columns : Nat} {last single : Bool}
    (h : best limit columns f last single fillings = some s) :
    ∃ first ∈ fillings, ∃ single, s = first.another limit columns f last single := by
  induction fillings generalizing single s with
  | nil => exact absurd h nofun
  | cons first rest ih =>
    rw [best] at h
    split at h
    · next other hother =>
      obtain rfl := Option.some.inj h
      split
      · obtain ⟨first', hfirst', heq⟩ := ih hother
        exact ⟨first', List.mem_cons_of_mem _ hfirst', heq⟩
      · exact ⟨first, List.mem_cons_self, single, rfl⟩
    · obtain rfl := Option.some.inj h
      exact ⟨first, List.mem_cons_self, single, rfl⟩

theorem isSome_best {columns : Nat} {last single : Bool}
    (h : fillings ≠ []) : (best limit columns f last single fillings).isSome := by
  cases fillings with
  | nil => exact absurd rfl h
  | cons first rest =>
    rw [best]
    split <;> rfl

theorem cost_best_le {columns : Nat} {last single : Bool} {first : Filling} {rest : List Filling}
    (h : best limit columns f last single (first :: rest) = some s) :
    s.cost ≤ (first.another limit columns f last single).cost ∧
      ∀ other ∈ rest, s.cost ≤ (other.another limit columns f last false).cost := by
  induction rest generalizing first single s with
  | nil =>
    obtain rfl := Option.some.inj h
    exact ⟨Nat.le_refl _, nofun⟩
  | cons second rest ih =>
    have hsome : (best limit columns f last false (second :: rest)).isSome :=
      isSome_best (List.cons_ne_nil second rest)
    obtain ⟨other, hother⟩ := Option.isSome_iff_exists.1 hsome
    obtain ⟨hsecond, hrest⟩ := ih hother
    rw [best, hother] at h
    obtain rfl := Option.some.inj h
    split
    · next hle => exact ⟨hle, List.forall_mem_cons.2 ⟨hsecond, hrest⟩⟩
    · next hlt =>
      have hle := Nat.le_of_lt (Nat.lt_of_not_le hlt)
      exact ⟨Nat.le_refl _, List.forall_mem_cons.2
        ⟨Nat.le_trans hle hsecond, fun other' h' ↦ Nat.le_trans hle (hrest other' h')⟩⟩

/-- In front of the last line it is the same for a fragment to be alone on its line. -/
theorem cost_best_le_of_mem {columns : Nat} {single : Bool} {first : Filling}
    (h : best limit columns f false single fillings = some s) (hfirst : first ∈ fillings) :
    s.cost ≤ first.cost + lineCost limit (columns + f.width - first.columns) false false := by
  cases fillings with
  | nil => exact absurd hfirst List.not_mem_nil
  | cons head rest =>
    obtain ⟨hhead, hrest⟩ := cost_best_le h
    rcases List.mem_cons.1 hfirst with rfl | hfirst
    · exact hhead
    · exact hrest first hfirst

/-- Fillings of all beginnings of fragments, longest first, each of them the best one. -/
inductive Filled (limit : Nat) : List Fragment → List Filling → Prop
  | start : Filled limit [] [.empty]
  | more {fs : List Fragment} {f : Fragment} {fillings : List Filling} {s : Filling}
      (h : Filled limit fs fillings) (hs : best limit (columns fs) f false true fillings = some s) :
    Filled limit (fs ++ [f]) (s :: fillings)

theorem columns_of_best {last : Bool}
    (h : best limit (columns fs) f last true fillings = some s) : s.columns = columns (fs ++ [f]) := by
  obtain ⟨first, -, single, rfl⟩ := exists_of_best h
  rw [columns_concat, another, Nat.add_assoc]

theorem Filled.head (h : Filled limit fs fillings) :
    ∃ first rest, fillings = first :: rest ∧ first.columns = columns fs := by
  cases h with
  | start => exact ⟨_, _, rfl, rfl⟩
  | more h hs => exact ⟨_, _, rfl, columns_of_best hs⟩

theorem Filled.beginning (h : Filled limit fs fillings) :
    ∀ first ∈ fillings, ∃ done rest, fs = done ++ rest ∧ first.columns = columns done := by
  induction h with
  | start => exact List.forall_mem_singleton.2 ⟨[], [], rfl, rfl⟩
  | @more fs f fillings s h hs ih =>
    refine List.forall_mem_cons.2 ⟨⟨fs ++ [f], [], (List.append_nil _).symm, columns_of_best hs⟩, ?_⟩
    intro first hfirst
    obtain ⟨done, rest, rfl, hcolumns⟩ := ih first hfirst
    exact ⟨done, rest ++ [f], List.append_assoc _ _ _, hcolumns⟩

theorem Filled.fits (h : Filled limit fs fillings) (hlimit : limit ≤ 39)
    (hfs : ∀ f ∈ fs, f.Fits limit) (hf : f.Fits limit) {last : Bool}
    (hs : best limit (columns fs) f last true fillings = some s) :
    ∃ first ∈ fillings, ∃ single, s = first.another limit (columns fs) f last single ∧
      columns fs + f.width - first.columns ≤ limit := by
  obtain ⟨first, hfirst, single, rfl⟩ := exists_of_best hs
  refine ⟨first, hfirst, single, rfl, ?_⟩
  have hwidth := hf.width_le
  cases h with
  | start =>
    obtain rfl := List.mem_singleton.1 hfirst
    exact Nat.le_trans (Nat.le_of_eq (Nat.zero_add _)) hwidth
  | @more fs e fillings before h hbefore =>
    have hcolumns := columns_of_best hbefore
    rcases List.mem_cons.1 hfirst with rfl | hfirst
    · omega
    · -- the last fragment could have been left to a line of its own
      by_contra hlong
      obtain ⟨done, rest, hdone, hfirstColumns⟩ := h.beginning first hfirst
      have hdoneColumns : columns done ≤ columns fs := by
        rw [hdone, columns_append]
        exact Nat.le_add_right _ _
      have he := hfs e (by simp)
      have hvisible := he.visible
      rw [columns_concat] at hlong
      have hsplit : lineCost limit (columns fs + e.width - first.columns) false false +
          lineCost limit f.width last true <
            lineCost limit (columns fs + e.width - first.columns + e.blanks + f.width) last single :=
        lineCost_add_lt hlimit he.blanks_le hf (by omega) (by omega)
      have halone : _ ≤ before.cost + lineCost limit (columns (fs ++ [e]) + f.width - before.columns)
        last true := (cost_best_le hs).1
      have hbefore := cost_best_le_of_mem hbefore hfirst
      rw [hcolumns, Nat.add_sub_cancel_left] at halone
      have hused : columns (fs ++ [e]) + f.width - first.columns =
          columns fs + e.width - first.columns + e.blanks + f.width := by
        rw [columns_concat]
        omega
      simp only [another, hused] at halone
      omega

theorem lines_greedy_le_best (h : Filled limit fs fillings) (hlimit : limit ≤ 39)
    (hlines : ∀ first ∈ fillings, ∃ done rest, fs = done ++ rest ∧ first.columns = columns done ∧
      (greedy limit done).lines ≤ first.lines)
    (hfs : ∀ f ∈ fs, f.Fits limit) (hf : f.Fits limit) {last : Bool}
    (hs : best limit (columns fs) f last true fillings = some s) :
    (greedy limit (fs ++ [f])).lines ≤ s.lines := by
  obtain ⟨first, hfirst, single, rfl, hfits⟩ := h.fits hlimit hfs hf hs
  obtain ⟨done, rest, rfl, hcolumns, hdone⟩ := hlines first hfirst
  rw [columns_append] at hfits
  have hrest : columns rest + f.width ≤ limit := by omega
  exact Nat.le_trans (lines_greedy_le hrest) (Nat.succ_le_succ hdone)

theorem Filled.lines (h : Filled limit fs fillings) (hlimit : limit ≤ 39)
    (hfs : ∀ f ∈ fs, f.Fits limit) : ∀ first ∈ fillings, ∃ done rest, fs = done ++ rest ∧
      first.columns = columns done ∧ (greedy limit done).lines ≤ first.lines := by
  induction h with
  | start => exact List.forall_mem_singleton.2 ⟨[], [], rfl, rfl, Nat.le_refl 0⟩
  | @more fs f fillings s h hs ih =>
    obtain ⟨hfs, hf⟩ := List.forall_mem_append.1 hfs
    have hlines := lines_greedy_le_best h hlimit (ih hfs) hfs (List.forall_mem_singleton.1 hf) hs
    refine List.forall_mem_cons.2 ⟨⟨fs ++ [f], [], (List.append_nil _).symm, columns_of_best hs, hlines⟩,
      fun first hfirst ↦ ?_⟩
    obtain ⟨done, rest, rfl, hfirst⟩ := ih hfs first hfirst
    exact ⟨done, rest ++ [f], List.append_assoc _ _ _, hfirst⟩

theorem all_cons {rest : List Fragment} {fillings : List Filling} {s : Filling}
    (hs : best limit ((fillings.head?.map (·.columns)).getD 0) f rest.isEmpty true fillings = some s) :
    Filling.all limit fillings (f :: rest) = Filling.all limit (s :: fillings) rest := by
  rw [Filling.all, hs]

theorem exists_head_all (h : Filled limit fs fillings) (hlimit : limit ≤ 39) {rest : List Fragment}
    (hrest : rest ≠ []) (hfs : ∀ f ∈ fs ++ rest, f.Fits limit) :
    ∃ s ∈ (Filling.all limit fillings rest).head?,
      (greedy limit (fs ++ rest)).lines ≤ s.lines := by
  induction rest generalizing fs fillings with
  | nil => exact absurd rfl hrest
  | cons f rest ih =>
    obtain ⟨first, others, hfillings, hcolumns⟩ := h.head
    obtain ⟨hdone, hleft⟩ := List.forall_mem_append.1 hfs
    obtain ⟨hf, -⟩ := List.forall_mem_cons.1 hleft
    have hsome : (best limit (columns fs) f rest.isEmpty true fillings).isSome :=
      isSome_best (hfillings ▸ List.cons_ne_nil first others)
    obtain ⟨s, hs⟩ := Option.isSome_iff_exists.1 hsome
    have htotal : (fillings.head?.map (·.columns)).getD 0 = columns fs := by
      rw [hfillings]
      exact hcolumns
    rw [all_cons (htotal ▸ hs)]
    cases rest with
    | nil => exact ⟨s, rfl, lines_greedy_le_best h hlimit (h.lines hlimit hdone) hdone hf hs⟩
    | cons f' rest =>
      rw [List.append_cons] at hfs ⊢
      exact ih (h.more hs) (List.cons_ne_nil f' rest) hfs

/-- On a screen of at most 39 columns even filling takes no fewer lines than greedy filling. -/
theorem lines_greedy_le_lineCount (hlimit : limit ≤ 39) (hfs : ∀ f ∈ fs, f.Fits limit) :
    (greedy limit fs).lines ≤ lineCount limit fs := by
  rcases eq_or_ne fs [] with rfl | hne
  · exact Nat.zero_le _
  · obtain ⟨s, hs, hlines⟩ := exists_head_all .start hlimit hne hfs
    rw [List.nil_append] at hlines
    obtain ⟨others, hall⟩ := List.head?_eq_some_iff.1 hs
    rw [lineCount, hall]
    exact Nat.le_trans hlines (Nat.le_max_left _ _)

/-- On every wider screen a long fragment is rather put behind a short one, where it does not fit,
than both are left alone. -/
theorem lineCount_wide (hlimit : 40 ≤ limit) :
    lineCount limit [⟨1, 1⟩, ⟨limit - 1, 0⟩] = 1 := by
  have hsquare : 39 * 39 ≤ (limit - 1) * (limit - 1) := Nat.mul_le_mul (by omega) (by omega)
  let short := Filling.empty.another limit 0 ⟨1, 1⟩ false true
  let both := Filling.empty.another limit 2 ⟨limit - 1, 0⟩ true false
  let apart := short.another limit 2 ⟨limit - 1, 0⟩ true true
  have hboth : both.cost = 3500 := by
    have hlong : limit < 2 + (limit - 1) - 0 := by omega
    have hone : 2 + (limit - 1) - 0 - limit = 1 := by omega
    simp only [both, another, Filling.empty, lineCost, if_pos hlong, hone]
  have hshort : short.cost = 1000 + (limit - 1) * (limit - 1) := by
    have hfits : ¬limit < 0 + 1 - 0 := by omega
    simp only [short, another, Filling.empty, lineCost, if_neg hfits, Nat.zero_add]
    rfl
  have hapart : 3500 ≤ apart.cost := by
    have hcost : apart.cost = short.cost + lineCost limit (2 + (limit - 1) - 2) true true := rfl
    have hline : 1000 ≤ lineCost limit (2 + (limit - 1) - 2) true true := Nat.le_add_right _ _
    omega
  have hbest : best limit 2 ⟨limit - 1, 0⟩ true true [short, .empty] = some both :=
    congrArg some (if_pos (Nat.le_trans (Nat.le_of_eq hboth) hapart))
  have hall : Filling.all limit [.empty] [⟨1, 1⟩, ⟨limit - 1, 0⟩] = [both, short, .empty] := by
    have hfirst : Filling.all limit [.empty] [⟨1, 1⟩, ⟨limit - 1, 0⟩] =
      Filling.all limit [short, .empty] [⟨limit - 1, 0⟩] := rfl
    rw [hfirst, all_cons hbest, Filling.all]
  rw [lineCount, hall]
  rfl

theorem lines_greedy_wide (hlimit : 2 ≤ limit) :
    (greedy limit [⟨1, 1⟩, ⟨limit - 1, 0⟩]).lines = 2 := by
  have hnew : ¬limit + 1 ≤ limit := by omega
  have hnone : ¬1 + 1 + (limit - 1) ≤ limit := by omega
  simp only [greedy, List.foldl_cons, List.foldl_nil, Greedy.put, Greedy.start, if_neg hnew,
    if_neg hnone]

end Fill

end SuggestionReview.Text
