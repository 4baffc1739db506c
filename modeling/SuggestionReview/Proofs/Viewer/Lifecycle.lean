import SuggestionReview.Viewer.Slot

namespace SuggestionReview

namespace ViewerSlot

/-- What a place is asked. The source may be another one every time, since a view may arrive or fail
to load at any time. -/
inductive Step (ν : Type := CodeView) where
  | request (source : ViewerSource ν)
  | poll (source : ViewerSource ν)

variable {ν : Type}

def after (slot : ViewerSlot ν) : Step ν → ViewerSlot ν
  | .request source => (slot.request source).1
  | .poll source => (slot.poll source).1

def run (slot : ViewerSlot ν) (ts : List (Step ν)) : ViewerSlot ν := ts.foldl after slot

/-- How far a place is: idle, loading, or settled with a view or a failure. -/
def stage : ViewerSlot ν → Nat
  | idle => 0
  | loading _ => 1
  | ready _ | failed _ => 2

def starts (slot : ViewerSlot ν) : Step ν → Bool
  | .request _ => slot.stage == 0
  | .poll _ => false

def looks (slot : ViewerSlot ν) : Step ν → Bool
  | .request _ => false
  | .poll _ => slot.stage == 1

def reports (slot : ViewerSlot ν) : Step ν → Bool
  | .request _ => false
  | .poll source => (slot.poll source).2.1

variable {slot slot' : ViewerSlot ν} {source : ViewerSource ν} {t : Step ν} {ts : List (Step ν)}

theorem request_of_stage (h : slot.stage ≠ 0) : slot.request source = (slot, source, []) := by
  cases slot with
  | idle => exact absurd rfl h
  | loading | ready | failed => rfl

theorem poll_of_stage (h : slot.stage ≠ 1) : slot.poll source = (slot, false, []) := by
  cases slot with
  | loading => exact absurd rfl h
  | idle | ready | failed => rfl

theorem poll_cases (slot : ViewerSlot ν) (source : ViewerSource ν) :
    slot.poll source = (slot, false, []) ∨
      (slot.poll source).2.1 = true ∧ (slot.poll source).1.stage = 2 := by
  unfold poll
  split
  · exact .inr ⟨rfl, rfl⟩
  · exact .inr ⟨rfl, rfl⟩
  · exact .inl rfl

inductive Turn : ViewerSlot ν → Step ν → ViewerSlot ν → Prop
  | kept {slot : ViewerSlot ν} {t : Step ν} (hs : slot.starts t = false)
      (hr : slot.reports t = false) : Turn slot t slot
  | started (source : ViewerSource ν) : Turn idle (.request source) (loading source.calls)
  | ended (load : Nat) (source : ViewerSource ν) {slot' : ViewerSlot ν}
      (hslot' : slot'.stage = 2) : Turn (loading load) (.poll source) slot'

theorem turn_after (slot : ViewerSlot ν) (t : Step ν) : Turn slot t (slot.after t) := by
  cases t with
  | request source =>
    by_cases h : slot.stage = 0
    · cases slot with
      | idle => exact .started source
      | loading | ready | failed => simp [stage] at h
    · rw [after, request_of_stage h]
      exact .kept (by simpa [starts] using h) rfl
  | poll source =>
    rcases slot.poll_cases source with hpoll | ⟨-, hstage⟩
    · rw [after, hpoll]
      exact .kept rfl (by rw [reports, hpoll])
    · by_cases h : slot.stage = 1
      · cases slot with
        | loading load => exact .ended load source hstage
        | idle | ready | failed => simp [stage] at h
      · rw [after, poll_of_stage h]
        exact .kept rfl (by rw [reports, poll_of_stage h])

structure Precedes (slot slot' : ViewerSlot ν) : Prop where
  stage_le : slot.stage ≤ slot'.stage
  settled : slot.stage = 2 → slot' = slot

theorem Precedes.refl (slot : ViewerSlot ν) : Precedes slot slot := ⟨Nat.le_refl _, fun _ ↦ rfl⟩

theorem Precedes.trans {slot'' : ViewerSlot ν} (h : Precedes slot slot')
    (h' : Precedes slot' slot'') : Precedes slot slot'' := by
  refine ⟨Nat.le_trans h.stage_le h'.stage_le, fun hsettled ↦ ?_⟩
  obtain rfl := h.settled hsettled
  exact h'.settled hsettled

theorem precedes_after (slot : ViewerSlot ν) (t : Step ν) : Precedes slot (slot.after t) := by
  have hturn := slot.turn_after t
  generalize slot.after t = slot' at hturn
  cases hturn with
  | kept => exact .refl slot
  | started source => exact ⟨Nat.zero_le 1, fun h ↦ absurd h (by simp [stage])⟩
  | ended load source hslot' =>
    refine ⟨?_, fun h ↦ absurd h (by simp [stage])⟩
    rw [hslot']
    exact Nat.le_succ 1

theorem precedes_run (slot : ViewerSlot ν) (ts : List (Step ν)) : Precedes slot (slot.run ts) := by
  induction ts generalizing slot with
  | nil => exact .refl slot
  | cons t ts ih => exact (slot.precedes_after t).trans (ih (slot.after t))

theorem stage_of_starts (h : slot.starts t = true) : 1 ≤ (slot.after t).stage := by
  have hturn := slot.turn_after t
  generalize slot.after t = slot' at hturn
  cases hturn with
  | kept hs => exact absurd (h.symm.trans hs) (by decide)
  | started source => exact Nat.le_refl 1
  | ended load source => exact absurd h (by simp [starts])

theorem one_le_stage_request (slot : ViewerSlot ν) (source : ViewerSource ν) :
    1 ≤ (slot.after (.request source)).stage := by
  by_cases h : slot.stage = 0
  · exact stage_of_starts (by simp [starts, h])
  · rw [after, request_of_stage h]
    exact Nat.one_le_iff_ne_zero.2 h

theorem stage_of_reports (h : slot.reports t = true) : (slot.after t).stage = 2 := by
  have hturn := slot.turn_after t
  generalize slot.after t = slot' at hturn
  cases hturn with
  | kept hs hr => exact absurd (h.symm.trans hr) (by decide)
  | started source => exact absurd h (by simp [reports])
  | ended load source hslot' => exact hslot'

theorem starts_of_stage (h : 1 ≤ slot.stage) : slot.starts t = false := by
  cases t with
  | request => simp only [starts, beq_eq_false_iff_ne]; omega
  | poll => rfl

theorem reports_of_stage (h : slot.stage = 2) : slot.reports t = false := by
  cases t with
  | request => rfl
  | poll source => rw [reports, poll_of_stage (by omega)]

theorem looks_of_stage (h : slot.stage = 2) : slot.looks t = false := by
  cases t with
  | request => rfl
  | poll => simp [looks, h]

def count (slot : ViewerSlot ν) (p : ViewerSlot ν → Step ν → Bool) : List (Step ν) → Nat
  | [] => 0
  | t :: ts => (p slot t).toNat + (slot.after t).count p ts

section Counts

variable {p : ViewerSlot ν → Step ν → Bool} {q : ViewerSlot ν → Prop}

theorem run_append (slot : ViewerSlot ν) (ts ts' : List (Step ν)) :
    slot.run (ts ++ ts') = (slot.run ts).run ts' :=
  List.foldl_append

theorem count_append (slot : ViewerSlot ν) (ts ts' : List (Step ν)) :
    slot.count p (ts ++ ts') = slot.count p ts + (slot.run ts).count p ts' := by
  induction ts generalizing slot with
  | nil => exact (Nat.zero_add _).symm
  | cons t ts ih =>
    have hrest := ih (slot.after t)
    rw [List.cons_append, count, hrest, count, Nat.add_assoc]
    rfl

theorem count_eq_zero (hq : ∀ slot t, q slot → q (slot.after t))
    (hp : ∀ slot t, q slot → p slot t = false) (h : q slot) (ts : List (Step ν)) :
    slot.count p ts = 0 := by
  induction ts generalizing slot with
  | nil => rfl
  | cons t ts ih => rw [count, hp slot t h, ih (hq slot t h), Bool.toNat_false]

/-- What leads to where it does not happen any more happens at most once. -/
theorem count_le_one (hq : ∀ slot t, q slot → q (slot.after t))
    (hp : ∀ slot t, q slot → p slot t = false) (hlast : ∀ slot t, p slot t = true → q (slot.after t))
    (slot : ViewerSlot ν) (ts : List (Step ν)) : slot.count p ts ≤ 1 := by
  induction ts generalizing slot with
  | nil => exact Nat.zero_le 1
  | cons t ts ih =>
    rw [count]
    cases ht : p slot t with
    | false => simpa using ih (slot.after t)
    | true => simp [count_eq_zero hq hp (hlast slot t ht) ts]

end Counts

theorem one_le_stage_after (slot : ViewerSlot ν) (t : Step ν) (h : 1 ≤ slot.stage) :
    1 ≤ (slot.after t).stage :=
  Nat.le_trans h (slot.precedes_after t).stage_le

theorem stage_after_of_settled (slot : ViewerSlot ν) (t : Step ν) (h : slot.stage = 2) :
    (slot.after t).stage = 2 := by
  rw [(slot.precedes_after t).settled h, h]

theorem count_starts_le_one (slot : ViewerSlot ν) (ts : List (Step ν)) : slot.count starts ts ≤ 1 :=
  count_le_one one_le_stage_after (fun _ _ ↦ starts_of_stage) (fun _ _ ↦ stage_of_starts) slot ts

theorem count_reports_le_one (slot : ViewerSlot ν) (ts : List (Step ν)) :
    slot.count reports ts ≤ 1 :=
  count_le_one stage_after_of_settled (fun _ _ ↦ reports_of_stage) (fun _ _ ↦ stage_of_reports)
    slot ts

theorem count_looks_of_reports (h : slot.reports t = true) (ts : List (Step ν)) :
    (slot.after t).count looks ts = 0 :=
  count_eq_zero stage_after_of_settled (fun _ _ ↦ looks_of_stage) (stage_of_reports h) ts

end ViewerSlot

/-- A load, a view and a failure, each kept for itself. -/
structure ViewerParts (ν : Type := CodeView) where
  load : Option Nat
  view : Option ν
  failure : Option String

namespace ViewerParts

variable {ν : Type}

def empty : ViewerParts ν := ⟨none, none, none⟩

def slot (p : ViewerParts ν) : ViewerSlot ν :=
  match p.view, p.failure, p.load with
  | some view, _, _ => .ready view
  | none, some reason, _ => .failed reason
  | none, none, some load => .loading load
  | none, none, none => .idle

def present (p : ViewerParts ν) : Nat :=
  p.load.isSome.toNat + p.view.isSome.toNat + p.failure.isSome.toNat

def after (p : ViewerParts ν) : ViewerSlot.Step ν → ViewerParts ν
  | .request source =>
    match p.slot with
    | .idle => { p with load := some source.calls }
    | _ => p
  | .poll source =>
    match p.load.bind source.answer with
    | some (.ok view) => { p with view := some view, load := none }
    | some (.error reason) =>
      { p with failure := some (ViewerSlot.failureText reason), load := none }
    | none => p

def run (p : ViewerParts ν) (ts : List (ViewerSlot.Step ν)) : ViewerParts ν := ts.foldl after p

def ofSlot : ViewerSlot ν → ViewerParts ν
  | .idle => empty
  | .loading load => ⟨some load, none, none⟩
  | .ready view => ⟨none, some view, none⟩
  | .failed reason => ⟨none, none, some reason⟩

theorem slot_ofSlot (s : ViewerSlot ν) : (ofSlot s).slot = s := by
  cases s <;> rfl

theorem present_ofSlot (s : ViewerSlot ν) : (ofSlot s).present ≤ 1 := by
  cases s with
  | idle => exact Nat.zero_le 1
  | loading | ready | failed => exact Nat.le_refl 1

theorem after_ofSlot (s : ViewerSlot ν) (t : ViewerSlot.Step ν) :
    (ofSlot s).after t = ofSlot (s.after t) := by
  cases t with
  | request source => cases s <;> rfl
  | poll source =>
    cases s with
    | loading load =>
      simp only [after, ofSlot, Option.bind_some, ViewerSlot.after, ViewerSlot.poll,
        ViewerSlot.arrived]
      cases source.answer load with
      | none => rfl
      | some result => cases result <;> rfl
    | idle | ready | failed => rfl

theorem run_ofSlot (s : ViewerSlot ν) (ts : List (ViewerSlot.Step ν)) :
    (ofSlot s).run ts = ofSlot (s.run ts) := by
  induction ts generalizing s with
  | nil => rfl
  | cons t ts ih =>
    calc (ofSlot s).run (t :: ts) = ((ofSlot s).after t).run ts := rfl
      _ = (ofSlot (s.after t)).run ts := by rw [after_ofSlot]
      _ = ofSlot (s.run (t :: ts)) := ih (s.after t)

/-- Parts that are kept each for itself never hold more than one thing, and stand for the place. -/
theorem present_run_empty (ts : List (ViewerSlot.Step ν)) :
    (empty.run ts).present ≤ 1 ∧ (empty.run ts).slot = ViewerSlot.idle.run ts := by
  have hrun : empty.run ts = ofSlot (ViewerSlot.idle.run ts) := run_ofSlot .idle ts
  rw [hrun]
  exact ⟨present_ofSlot _, slot_ofSlot _⟩

end ViewerParts

end SuggestionReview
