import Mathlib.Algebra.Ring.Parity
import Mathlib.Data.List.Basic
import Mathlib.Data.List.Induction
import SuggestionReview.Row.Content

namespace SuggestionReview.EditState

abbrev History := List (EditStep × Bool)

def after (given : Committed) (h : History) : EditState :=
  h.foldl (fun s x ↦ (s.step x.1 x.2).state) (mount given)

def isToggle : EditStep × Bool → Bool
  | (.toggle, canSave) => canSave
  | _ => false

def toggles (h : History) : Nat := h.countP isToggle

def supply? : EditStep × Bool → Option Committed
  | (.supply given, _) => some given
  | _ => none

def supplied (given : Committed) (h : History) : Committed := (h.filterMap supply?).getLastD given

/-- What a step makes the draft when it comes after others. A payload that is handed over counts
when it is not the one that was handed over last, and an edit counts while editing. -/
def drafted? (given : Committed) (before : History) : EditStep → Option Payload
  | .supply p => if p.identity = (supplied given before).identity then none else some p.payload
  | .draft p => if Odd (toggles before) then some p else none
  | .toggle | .save _ => none

def drafts (given : Committed) (h : History) : List Payload :=
  (List.range h.length).filterMap fun i ↦ h[i]?.bind fun x ↦ drafted? given (h.take i) x.1

/-- What a step asks to save when it comes after others: the draft under the patch, while editing. -/
def requested? (given : Committed) (before : History) : EditStep → Option Payload
  | .save q =>
    if Odd (toggles before) then some (((drafts given before).getLastD given.payload).merge q)
    else none
  | _ => none

def SameObjects (given : Committed) (h : History) : Prop :=
  ∀ p ∈ given :: h.filterMap supply?, ∀ q ∈ given :: h.filterMap supply?,
    p.identity = q.identity → p = q

variable {given : Committed} {h : History} {x : EditStep × Bool} {s : EditState}

theorem after_concat (given : Committed) (h : History) (x : EditStep × Bool) :
    after given (h ++ [x]) = ((after given h).step x.1 x.2).state := by
  rw [after, List.foldl_append]
  rfl

theorem toggles_concat (h : History) (x : EditStep × Bool) :
    toggles (h ++ [x]) = toggles h + if isToggle x then 1 else 0 := by
  rw [toggles, List.countP_append, List.countP_singleton, toggles]

theorem supplied_concat (given : Committed) (h : History) (x : EditStep × Bool) :
    supplied given (h ++ [x]) = (supply? x).getD (supplied given h) := by
  rw [supplied, List.filterMap_append]
  cases hx : supply? x with
  | none => simp [hx, supplied]
  | some p => simp [hx]

theorem drafts_concat (given : Committed) (h : History) (x : EditStep × Bool) :
    drafts given (h ++ [x]) = drafts given h ++ (drafted? given h x.1).toList := by
  have hbefore : (List.range h.length).filterMap (fun i ↦ (h ++ [x])[i]?.bind fun y ↦
      drafted? given ((h ++ [x]).take i) y.1) = drafts given h := by
    refine List.filterMap_congr fun i hi ↦ ?_
    have hi : i < h.length := List.mem_range.1 hi
    rw [List.getElem?_append_left hi, List.take_append_of_le_length (Nat.le_of_lt hi)]
  rw [drafts, List.length_append, List.length_singleton, List.range_succ, List.filterMap_append,
    hbefore]
  cases hx : drafted? given h x.1 <;> simp [hx]

theorem supplied_mem (given : Committed) (h : History) :
    supplied given h ∈ given :: h.filterMap supply? := List.getLastD_mem_cons

theorem SameObjects.of_concat (hs : SameObjects given (h ++ [x])) : SameObjects given h := by
  refine fun p hp q hq ↦ hs p ?_ q ?_
  all_goals
    rw [List.filterMap_append, ← List.cons_append]
    exact List.mem_append_left _ ‹_›

structure Summary (given : Committed) (h : History) (s : EditState) : Prop where
  mode : s.isEditing = true ↔ Odd (toggles h)
  identity : s.committed.identity = (supplied given h).identity
  committed : SameObjects given h → s.committed = supplied given h
  draft : s.draft = (drafts given h).getLastD given.payload

theorem isEditing_step (s : EditState) (x : EditStep × Bool) :
    (s.step x.1 x.2).state.isEditing = (s.isEditing ^^ isToggle x) := by
  obtain ⟨t, canSave⟩ := x
  cases t with
  | toggle =>
    obtain ⟨mode, draft, committed⟩ := s
    cases canSave <;> cases mode <;> rfl
  | supply p | draft p | save p =>
    simp only [step, isToggle, Bool.xor_false]
    split <;> rfl

theorem committed_step (s : EditState) (x : EditStep × Bool) : (s.step x.1 x.2).state.committed =
    (supply? x).elim s.committed fun p ↦
      if p.identity = s.committed.identity then s.committed else p := by
  obtain ⟨t, canSave⟩ := x
  cases t with
  | toggle => cases canSave <;> rfl
  | supply p =>
    simp only [step, supply?, Option.elim_some]
    split <;> rfl
  | draft p | save p =>
    simp only [step]
    split <;> rfl

theorem Summary.draft_step (hs : Summary given h s) (x : EditStep × Bool) :
    (s.step x.1 x.2).state.draft = (drafted? given h x.1).getD s.draft := by
  obtain ⟨t, canSave⟩ := x
  cases t with
  | toggle => cases canSave <;> rfl
  | supply p =>
    by_cases hp : p.identity = s.committed.identity <;>
      simp [step, drafted?, ← hs.identity, hp]
  | draft p =>
    cases he : s.isEditing <;> simp [step, drafted?, ← hs.mode, he]
  | save q =>
    simp only [step]
    split <;> rfl

theorem Summary.concat (hs : Summary given h s) (x : EditStep × Bool) :
    Summary given (h ++ [x]) (s.step x.1 x.2).state := by
  refine ⟨?_, ?_, fun hobjects ↦ ?_, ?_⟩
  · rw [isEditing_step, toggles_concat]
    cases isToggle x with
    | false => simpa using hs.mode
    | true =>
      rw [Bool.xor_true, Bool.not_eq_true', ← Bool.not_eq_true, hs.mode]
      exact Nat.odd_add_one.symm
  · rw [committed_step, supplied_concat]
    cases supply? x with
    | none => exact hs.identity
    | some p =>
      by_cases hp : p.identity = s.committed.identity
      · simp [hp]
      · simp [hp]
  · have hcommitted : s.committed = supplied given h := hs.committed hobjects.of_concat
    rw [committed_step, supplied_concat]
    cases hx : supply? x with
    | none => exact hcommitted
    | some p =>
      by_cases hp : p.identity = s.committed.identity
      · -- the identity was there before, so the payload is the same as well
        have hsame : s.committed = p := by
          refine hobjects _ ?_ p ?_ hp.symm
          · rw [hcommitted, List.filterMap_append, ← List.cons_append]
            exact List.mem_append_left _ (supplied_mem given h)
          · simp [List.filterMap_append, hx]
        simpa [hp] using hsame
      · simp [hp]
  · rw [hs.draft_step, drafts_concat, hs.draft]
    cases drafted? given h x.1 <;> simp

theorem summary_after (given : Committed) (h : History) : Summary given h (after given h) := by
  induction h using List.reverseRecOn with
  | nil => exact ⟨⟨nofun, nofun⟩, rfl, fun _ ↦ rfl, rfl⟩
  | append_singleton h x ih =>
    rw [after_concat]
    exact ih.concat x

theorem Summary.saved (hs : Summary given h s) (t : EditStep) (canSave : Bool) :
    (s.step t canSave).saved = requested? given h t := by
  cases t with
  | toggle => cases canSave <;> rfl
  | supply p | draft p =>
    simp only [step]
    split <;> rfl
  | save q =>
    rw [requested?, ← hs.draft]
    cases he : s.isEditing <;> simp [step, ← hs.mode, he]

theorem state_save (s : EditState) (q : Patch) (canSave : Bool) :
    (s.step (.save q) canSave).state = s := by
  simp only [step]
  split <;> rfl

/-- After any steps a row is edited if it was toggled an odd number of times where saving was
possible, its payload is the one that was handed over last, and its draft is what was made the draft
last. What a step asks to save is told by the history as well, and a save changes nothing. -/
theorem history_tells (given : Committed) (h : History) :
    ((after given h).isEditing = true ↔ Odd (toggles h)) ∧
    (after given h).committed.identity = (supplied given h).identity ∧
    (SameObjects given h → (after given h).committed = supplied given h) ∧
    (after given h).draft = (drafts given h).getLastD given.payload ∧
    ∀ t canSave, ((after given h).step t canSave).saved = requested? given h t ∧
      ∀ q, t = .save q → ((after given h).step t canSave).state = after given h := by
  have hs := summary_after given h
  refine ⟨hs.mode, hs.identity, hs.committed, hs.draft, fun t canSave ↦ ⟨hs.saved t canSave, ?_⟩⟩
  rintro q rfl
  exact state_save _ q canSave

def bare (t : ActionType) : Payload := ⟨t, .row, [], none, none, []⟩

def handedAgain : History :=
  [(.toggle, true), (.draft (bare .average), true), (.supply ⟨0, bare .sum⟩, true),
    (.supply ⟨1, bare .sum⟩, false)]

theorem history_tells_handedAgain :
    SameObjects ⟨0, bare .sum⟩ handedAgain ∧
    (after ⟨0, bare .sum⟩ handedAgain).committed = ⟨1, bare .sum⟩ ∧
    (after ⟨0, bare .sum⟩ (handedAgain.take 3)).draft = bare .average ∧
    (after ⟨0, bare .sum⟩ handedAgain).draft = bare .sum := by
  have hpayload : ∀ p ∈ ⟨0, bare .sum⟩ :: handedAgain.filterMap supply?, p.payload = bare .sum := by
    have hhanded : handedAgain.filterMap supply? = [⟨0, bare .sum⟩, ⟨1, bare .sum⟩] := rfl
    simp [hhanded]
  have hobjects : SameObjects ⟨0, bare .sum⟩ handedAgain := by
    intro p hp q hq h
    have hpq : p.payload = q.payload := (hpayload p hp).trans (hpayload q hq).symm
    cases p
    cases q
    exact congrArg₂ Committed.mk h hpq
  obtain ⟨-, -, hcommitted, hdraft, -⟩ := history_tells ⟨0, bare .sum⟩ handedAgain
  exact ⟨hobjects, hcommitted hobjects, rfl, hdraft.trans rfl⟩

end SuggestionReview.EditState
