import SuggestionReview.Proofs.Json.Verbatim

namespace SuggestionReview.Json.Reader

variable {α β σ : Type} {c c' c₁ : Cursor} {d n : Nat} {first : Bool}

/-- What the reader reads stands in the document. -/
def Reports (r : Reader α) (d : Nat) (R : Value → α → Prop) : Prop :=
  ∀ c a c', r c = .ok (a, c') → ∃ v, verbatim d c = .ok (v, c') ∧ R v a

/-- What stands in the document the reader reads. -/
def Accepts (r : Reader α) (d : Nat) (R : Value → α → Prop) : Prop :=
  ∀ c v a c', verbatim d c = .ok (v, c') → R v a → r c = .ok (a, c')

theorem Reports.mono {r : Reader α} {R S : Value → α → Prop} (h : Reports r d R)
    (hRS : ∀ v a, R v a → S v a) : Reports r d S := by
  intro c a c' hr
  obtain ⟨v, hv, hR⟩ := h c a c' hr
  exact ⟨v, hv, hRS v a hR⟩

theorem Accepts.mono {r : Reader α} {R S : Value → α → Prop} (h : Accepts r d R)
    (hSR : ∀ v a, S v a → R v a) : Accepts r d S := fun c v a c' hv hS ↦
  h c v a c' hv (hSR v a hS)

theorem Reports.run {r : Reader α} {R : Value → α → Prop} (h : Reports r d R) {s : String} {a : α}
    (hr : r.run s = .ok a) : ∃ v, (verbatim d).run s = .ok v ∧ R v a := by
  obtain ⟨c, hc, he⟩ := run_eq_ok.1 hr
  obtain ⟨v, hv, hR⟩ := h _ _ _ hc
  exact ⟨v, run_eq_ok.2 ⟨c, hv, he⟩, hR⟩

theorem Accepts.run {r : Reader α} {R : Value → α → Prop} (h : Accepts r d R) {s : String}
    {v : Value} {a : α} (hv : (verbatim d).run s = .ok v) (hR : R v a) : r.run s = .ok a := by
  obtain ⟨c, hc, he⟩ := run_eq_ok.1 hv
  exact run_eq_ok.2 ⟨c, h _ _ _ _ hc hR, he⟩

def itemsFrom (item : Reader α) : Nat → Bool → Reader (List α)
  | 0, _ => refuse .noValue
  | n + 1, first => do
    if ← nextItem first then
      let a ← item
      let as ← itemsFrom item n false
      pure (a :: as)
    else pure []

theorem items_eq_itemsFrom (item : Reader α) :
    items item c = itemsFrom item (c.rest.length + 1) true c := by
  have h : ∀ n (read : List α), loop (fun read ↦ do
      if ← nextItem read.isEmpty then
        let a ← item
        pure (.inl (a :: read))
      else pure (.inr read.reverse)) n read =
        (read.reverse ++ ·) <$> itemsFrom item n read.isEmpty := by
    intro n
    induction n with
    | zero => exact fun _ ↦ rfl
    | succ n ih =>
      intro read
      simp only [loop, itemsFrom, bind_assoc, map_bind]
      congr 1
      funext more
      cases more with
      | false => simp
      | true =>
        simp only [if_true, bind_assoc, pure_bind, map_bind]
        congr 1
        funext a
        exact (ih (a :: read)).trans (by simp)
  exact (congrFun (h _ []) c).trans (by simp)

theorem itemsFrom_reports {item : Reader α} {R : Value → α → Prop} (h : Reports item d R)
    {as : List α} (hr : itemsFrom item n first c = .ok (as, c')) :
    ∃ vs, itemsFrom (verbatim d) n first c = .ok (vs, c') ∧ List.Forall₂ R vs as := by
  induction n generalizing first c as with
  | zero => simp [itemsFrom] at hr
  | succ n ih =>
    rw [itemsFrom, bind_eq_ok] at hr
    obtain ⟨more, c₁, hn, hr⟩ := hr
    rw [itemsFrom, bind_of_ok hn]
    cases more with
    | false =>
      simp only [Bool.false_eq_true, if_false, pure_apply, Except.ok.injEq, Prod.mk.injEq] at hr ⊢
      obtain ⟨rfl, rfl⟩ := hr
      exact ⟨[], ⟨rfl, rfl⟩, .nil⟩
    | true =>
      simp only [if_true, bind_eq_ok, pure_apply, Except.ok.injEq, Prod.mk.injEq] at hr ⊢
      obtain ⟨a, c₂, ha, rest, c₃, hrest, rfl, rfl⟩ := hr
      obtain ⟨v, hv, hR⟩ := h _ _ _ ha
      obtain ⟨vs, hvs, hRs⟩ := ih hrest
      exact ⟨v :: vs, ⟨v, c₂, hv, vs, c₃, hvs, rfl, rfl⟩, .cons hR hRs⟩

theorem itemsFrom_accepts {item : Reader α} {R : Value → α → Prop} (h : Accepts item d R)
    {vs : List Value} {as : List α} (hv : itemsFrom (verbatim d) n first c = .ok (vs, c'))
    (hR : List.Forall₂ R vs as) : itemsFrom item n first c = .ok (as, c') := by
  induction n generalizing first c vs as with
  | zero => simp [itemsFrom] at hv
  | succ n ih =>
    rw [itemsFrom, bind_eq_ok] at hv
    obtain ⟨more, c₁, hn, hv⟩ := hv
    rw [itemsFrom, bind_of_ok hn]
    cases more with
    | false =>
      simp only [Bool.false_eq_true, if_false, pure_apply, Except.ok.injEq, Prod.mk.injEq] at hv ⊢
      obtain ⟨rfl, rfl⟩ := hv
      exact ⟨(List.forall₂_nil_left_iff.1 hR).symm, rfl⟩
    | true =>
      simp only [if_true, bind_eq_ok, pure_apply, Except.ok.injEq, Prod.mk.injEq] at hv ⊢
      obtain ⟨v, c₂, hv, rest, c₃, hrest, rfl, rfl⟩ := hv
      obtain ⟨a, as, ha, hRs, rfl⟩ := List.forall₂_cons_left_iff.1 hR
      exact ⟨a, c₂, h _ _ _ _ hv ha, as, c₃, ih hrest hRs, rfl, rfl⟩

theorem itemsFrom_mem {item : Reader α} {first : Bool} {as : List α} {c c' : Cursor}
    (h : itemsFrom item n first c = .ok (as, c')) {a : α} (ha : a ∈ as) :
    ∃ c₁ c₂, item c₁ = .ok (a, c₂) := by
  induction n generalizing first c as with
  | zero => simp [itemsFrom] at h
  | succ n ih =>
    rw [itemsFrom, bind_eq_ok] at h
    obtain ⟨more, c₁, -, h⟩ := h
    cases more with
    | false =>
      simp only [Bool.false_eq_true, if_false, pure_apply, Except.ok.injEq, Prod.mk.injEq] at h
      exact absurd ha (h.1 ▸ List.not_mem_nil)
    | true =>
      simp only [if_true, bind_eq_ok, pure_apply, Except.ok.injEq, Prod.mk.injEq] at h
      obtain ⟨b, c₂, hb, rest, c₃, hrest, rfl, rfl⟩ := h
      rcases List.mem_cons.1 ha with rfl | ha
      · exact ⟨c₁, c₂, hb⟩
      · exact ih hrest ha

def ListStands (R : Value → α → Prop) (v : Value) (as : List α) : Prop :=
  ∃ vs, v = .array vs ∧ List.Forall₂ R vs as

theorem listOf_eq_ok {item : Nat → Reader α} {as : List α} :
    listOf item d c = .ok (as, c') ↔
      ∃ c₁ d' c₂, valueStart c = .ok ('[', c₁) ∧ d = d' + 1 ∧
        itemsFrom (item d') (c₁.advance.rest.length + 1) true c₁.advance = .ok (as, c₂) ∧
        closeList c₂ = (.ok (), c') := by
  rw [listOf, bind_eq_ok]
  constructor
  · intro h
    obtain ⟨ch, c₁, hs, h⟩ := h
    split at h
    · simp at h
    · obtain ⟨c₂, hi, hc⟩ := enclosed_eq_ok.1 h
      exact ⟨c₁, _, c₂, hs, rfl, items_eq_itemsFrom _ ▸ hi, hc⟩
    · exact absurd h (wrongType_ne_ok _)
  · intro h
    obtain ⟨c₁, d', c₂, hs, rfl, hi, hc⟩ := h
    exact ⟨'[', c₁, hs, enclosed_eq_ok.2 ⟨c₂, items_eq_itemsFrom _ ▸ hi, hc⟩⟩

theorem listOf_reports {item : Nat → Reader α} {R : Value → α → Prop}
    (h : ∀ d, Reports (item d) d R) : Reports (listOf item d) d (ListStands R) := by
  intro c as c' hr
  obtain ⟨c₁, d', c₂, hs, rfl, hi, hc⟩ := listOf_eq_ok.1 hr
  obtain ⟨vs, hvs, hR⟩ := itemsFrom_reports (h d') hi
  exact ⟨.array vs, verbatim_array.2 (listOf_eq_ok.2 ⟨c₁, d', c₂, hs, rfl, hvs, hc⟩), vs, rfl, hR⟩

theorem listOf_accepts {item : Nat → Reader α} {R : Value → α → Prop}
    (h : ∀ d, Accepts (item d) d R) : Accepts (listOf item d) d (ListStands R) := by
  intro c _ as c' hv h
  obtain ⟨vs, rfl, hR⟩ := h
  obtain ⟨c₁, d', c₂, hs, rfl, hi, hc⟩ := listOf_eq_ok.1 (verbatim_array.1 hv)
  exact listOf_eq_ok.2 ⟨c₁, d', c₂, hs, rfl, itemsFrom_accepts (h d') hi hR, hc⟩

def membersFrom (visit : σ → String → Reader σ) : Nat → Bool → σ → Reader σ
  | 0, _, _ => refuse .noValue
  | n + 1, first, s => do
    match ← nextKey first with
    | some key => do
      let s ← visit s key
      membersFrom visit n false s
    | none => pure s

def memberValue (d : Nat) : Reader Value := do
  colon
  verbatim d

def pairsFrom (d : Nat) : Nat → Bool → Reader (List (String × Value))
  | 0, _ => refuse .noValue
  | n + 1, first => do
    match ← nextKey first with
    | some key => do
      let v ← memberValue d
      let rest ← pairsFrom d n false
      pure ((key, v) :: rest)
    | none => pure []

def Steps (R : σ → String × Value → σ → Prop) : σ → List (String × Value) → σ → Prop
  | s, [], s' => s = s'
  | s, m :: ms, s' => ∃ s₁, R s m s₁ ∧ Steps R s₁ ms s'

theorem steps_append {R : σ → String × Value → σ → Prop} {s s' : σ}
    {ms ns : List (String × Value)} :
    Steps R s (ms ++ ns) s' ↔ ∃ s₁, Steps R s ms s₁ ∧ Steps R s₁ ns s' := by
  induction ms generalizing s with
  | nil => simp [Steps]
  | cons m ms ih =>
    simp only [List.cons_append, Steps, ih]
    constructor
    · intro h
      obtain ⟨s₂, h, s₁, h₁, h₂⟩ := h
      exact ⟨s₁, ⟨s₂, h, h₁⟩, h₂⟩
    · intro h
      obtain ⟨s₁, ⟨s₂, h, h₁⟩, h₂⟩ := h
      exact ⟨s₂, h, s₁, h₁, h₂⟩

theorem steps_concat {R : σ → String × Value → σ → Prop} {s s' : σ}
    {ms : List (String × Value)} {m : String × Value} :
    Steps R s (ms ++ [m]) s' ↔ ∃ s₁, Steps R s ms s₁ ∧ R s₁ m s' := by
  simp [steps_append, Steps]

theorem Steps.mono {R S : σ → String × Value → σ → Prop} (h : ∀ s m s', R s m s' → S s m s')
    {s s' : σ} {ms : List (String × Value)} (hs : Steps R s ms s') : Steps S s ms s' := by
  induction ms generalizing s with
  | nil => exact hs
  | cons m ms ih =>
    obtain ⟨s₁, h₁, h₂⟩ := hs
    exact ⟨s₁, h _ _ _ h₁, ih h₂⟩

theorem Steps.invariant {R : σ → String × Value → σ → Prop} {P : σ → Prop}
    {ms : List (String × Value)} (h : ∀ s m s', m ∈ ms → R s m s' → P s → P s') {s s' : σ}
    (hs : Steps R s ms s') (hP : P s) : P s' := by
  induction ms generalizing s with
  | nil => exact hs ▸ hP
  | cons m ms ih =>
    obtain ⟨s₁, h₁, h₂⟩ := hs
    exact ih (fun s m' s' hm ↦ h s m' s' (List.mem_cons_of_mem m hm)) h₂
      (h _ _ _ List.mem_cons_self h₁ hP)

theorem members_eq_membersFrom (visit : σ → String → Reader σ) (s : σ) :
    members visit s c = membersFrom visit (c.rest.length + 1) true s c := by
  have h : ∀ n (state : σ × Bool), loop (fun state ↦ do
      match ← nextKey state.2 with
      | some key => do
        let s ← visit state.1 key
        pure (.inl (s, false))
      | none => pure (.inr state.1)) n state = membersFrom visit n state.2 state.1 := by
    intro n
    induction n with
    | zero => exact fun _ ↦ rfl
    | succ n ih =>
      intro state
      simp only [loop, membersFrom, bind_assoc]
      congr 1
      funext key
      cases key with
      | none => simp
      | some key =>
        simp only [bind_assoc, pure_bind]
        congr 1
        funext s
        exact ih (s, false)
  exact congrFun (h _ (s, true)) c

theorem membersFrom_keepMember (read : List (String × Value)) :
    membersFrom (keepMember (verbatim d)) n first read =
      (fun ms ↦ ms.reverse ++ read) <$> pairsFrom d n first := by
  induction n generalizing first read with
  | zero => rfl
  | succ n ih =>
    simp only [membersFrom, pairsFrom, map_bind]
    congr 1
    funext key
    cases key with
    | none => simp
    | some key => simp [keepMember, memberValue, ih]

theorem membersFrom_reports {visit : σ → String → Reader σ} {R : σ → String × Value → σ → Prop}
    (h : ∀ s key c s' c', visit s key c = .ok (s', c') →
      ∃ v, memberValue d c = .ok (v, c') ∧ R s (key, v) s')
    {s s' : σ} (hr : membersFrom visit n first s c = .ok (s', c')) :
    ∃ ms, pairsFrom d n first c = .ok (ms, c') ∧ Steps R s ms s' := by
  induction n generalizing first c s with
  | zero => simp [membersFrom] at hr
  | succ n ih =>
    rw [membersFrom, bind_eq_ok] at hr
    obtain ⟨key, c₁, hk, hr⟩ := hr
    rw [pairsFrom, bind_of_ok hk]
    cases key with
    | none =>
      simp only [pure_apply, Except.ok.injEq, Prod.mk.injEq] at hr ⊢
      obtain ⟨rfl, rfl⟩ := hr
      exact ⟨[], ⟨rfl, rfl⟩, rfl⟩
    | some key =>
      simp only [bind_eq_ok, pure_apply, Except.ok.injEq, Prod.mk.injEq] at hr ⊢
      obtain ⟨s₁, c₂, hs, hr⟩ := hr
      obtain ⟨v, hv, hR⟩ := h _ _ _ _ _ hs
      obtain ⟨ms, hms, hRs⟩ := ih hr
      exact ⟨(key, v) :: ms, ⟨v, c₂, hv, ms, c', hms, rfl, rfl⟩, s₁, hR, hRs⟩

theorem membersFrom_accepts {visit : σ → String → Reader σ} {R : σ → String × Value → σ → Prop}
    (h : ∀ s key c v s' c', memberValue d c = .ok (v, c') → R s (key, v) s' →
      visit s key c = .ok (s', c'))
    {ms : List (String × Value)} {s s' : σ} (hv : pairsFrom d n first c = .ok (ms, c'))
    (hR : Steps R s ms s') : membersFrom visit n first s c = .ok (s', c') := by
  induction n generalizing first c s ms with
  | zero => simp [pairsFrom] at hv
  | succ n ih =>
    rw [pairsFrom, bind_eq_ok] at hv
    obtain ⟨key, c₁, hk, hv⟩ := hv
    rw [membersFrom, bind_of_ok hk]
    cases key with
    | none =>
      simp only [pure_apply, Except.ok.injEq, Prod.mk.injEq] at hv ⊢
      obtain ⟨rfl, rfl⟩ := hv
      exact ⟨hR, rfl⟩
    | some key =>
      simp only [bind_eq_ok, pure_apply, Except.ok.injEq, Prod.mk.injEq] at hv ⊢
      obtain ⟨v, c₂, hv, ms, c₃, hms, rfl, rfl⟩ := hv
      obtain ⟨s₁, hs, hRs⟩ := hR
      exact ⟨s₁, c₂, h _ _ _ _ _ _ hv hs, ih hms hRs⟩

theorem pairsFrom_mem {first : Bool} {ms : List (String × Value)} {c c' : Cursor}
    (h : pairsFrom d n first c = .ok (ms, c')) {m : String × Value} (hm : m ∈ ms) :
    ∃ c₁ c₂, verbatim d c₁ = .ok (m.2, c₂) := by
  induction n generalizing first c ms with
  | zero => simp [pairsFrom] at h
  | succ n ih =>
    rw [pairsFrom, bind_eq_ok] at h
    obtain ⟨key, c₁, -, h⟩ := h
    cases key with
    | none =>
      simp only [pure_apply, Except.ok.injEq, Prod.mk.injEq] at h
      exact absurd hm (h.1 ▸ List.not_mem_nil)
    | some key =>
      simp only [bind_eq_ok, pure_apply, Except.ok.injEq, Prod.mk.injEq] at h
      obtain ⟨v, c₂, hv, rest, c₃, hrest, rfl, rfl⟩ := h
      rcases List.mem_cons.1 hm with rfl | hm
      · obtain ⟨_, c₄, -, hv⟩ := bind_eq_ok.1 hv
        exact ⟨c₄, c₂, hv⟩
      · exact ih hrest hm

def ObjectStands (R : σ → String × Value → σ → Prop) (F : σ → α → Prop) (start : σ) (v : Value)
    (a : α) : Prop :=
  ∃ ms s, v = .object ms ∧ Steps R start ms s ∧ F s a

theorem objectOf_eq_ok {expected : String} {visit : Nat → σ → String → Reader σ} {start : σ}
    {finish : σ → Reader α} {a : α} :
    objectOf expected visit start finish d c = .ok (a, c') ↔
      ∃ c₁ d' c₂ s c₃, valueStart c = .ok ('\x7b', c₁) ∧ d = d' + 1 ∧
        membersFrom (visit d') (c₁.advance.rest.length + 1) true start c₁.advance = .ok (s, c₂) ∧
        finish s c₂ = .ok (a, c₃) ∧ closeObject c₃ = (.ok (), c') := by
  rw [objectOf, bind_eq_ok]
  constructor
  · intro h
    obtain ⟨ch, c₁, hs, h⟩ := h
    split at h
    · simp at h
    · obtain ⟨c₃, hb, hc⟩ := enclosed_eq_ok.1 h
      obtain ⟨s, c₂, hm, hf⟩ := bind_eq_ok.1 hb
      exact ⟨c₁, _, c₂, s, c₃, hs, rfl, members_eq_membersFrom _ _ ▸ hm, hf, hc⟩
    · exact absurd h (wrongType_ne_ok _)
  · intro h
    obtain ⟨c₁, d', c₂, s, c₃, hs, rfl, hm, hf, hc⟩ := h
    refine ⟨'\x7b', c₁, hs, enclosed_eq_ok.2 ⟨c₃, ?_, hc⟩⟩
    exact bind_eq_ok.2 ⟨s, c₂, members_eq_membersFrom _ _ ▸ hm, hf⟩

theorem verbatim_object_eq_ok {ms : List (String × Value)} :
    verbatim d c = .ok (.object ms, c') ↔
      ∃ c₁ d' c₂, valueStart c = .ok ('\x7b', c₁) ∧ d = d' + 1 ∧
        pairsFrom d' (c₁.advance.rest.length + 1) true c₁.advance = .ok (ms, c₂) ∧
        closeObject c₂ = (.ok (), c') := by
  rw [verbatim_object "", objectOf_eq_ok]
  simp only [membersFrom_keepMember, map_eq_ok, List.append_nil, pure_apply, Except.ok.injEq,
    Prod.mk.injEq]
  constructor
  · intro h
    obtain ⟨c₁, d', c₂, _, _, hs, hd, ⟨ms', hm, rfl⟩, ⟨hms, rfl⟩, hc⟩ := h
    rw [List.reverse_reverse] at hms
    exact ⟨c₁, d', c₂, hs, hd, hms ▸ hm, hc⟩
  · intro h
    obtain ⟨c₁, d', c₂, hs, hd, hm, hc⟩ := h
    exact ⟨c₁, d', c₂, _, c₂, hs, hd, ⟨ms, hm, rfl⟩, ⟨List.reverse_reverse ms, rfl⟩, hc⟩

theorem objectOf_reports {expected : String} {visit : Nat → σ → String → Reader σ} {start : σ}
    {finish : σ → Reader α} {R : σ → String × Value → σ → Prop} {F : σ → α → Prop}
    (h : ∀ d s key c s' c', visit d s key c = .ok (s', c') →
      ∃ v, memberValue d c = .ok (v, c') ∧ R s (key, v) s')
    (hf : ∀ s c a c', finish s c = .ok (a, c') → c = c' ∧ F s a) :
    Reports (objectOf expected visit start finish d) d (ObjectStands R F start) := by
  intro c a c' hr
  obtain ⟨c₁, d', c₂, s, c₃, hs, hd, hm, hfin, hc⟩ := objectOf_eq_ok.1 hr
  obtain ⟨ms, hms, hR⟩ := membersFrom_reports (h d') hm
  obtain ⟨rfl, hF⟩ := hf _ _ _ _ hfin
  exact ⟨.object ms, verbatim_object_eq_ok.2 ⟨c₁, d', c₂, hs, hd, hms, hc⟩, ms, s, rfl, hR, hF⟩

theorem objectOf_accepts {expected : String} {visit : Nat → σ → String → Reader σ} {start : σ}
    {finish : σ → Reader α} {R : σ → String × Value → σ → Prop} {F : σ → α → Prop}
    (h : ∀ d s key c v s' c', memberValue d c = .ok (v, c') → R s (key, v) s' →
      visit d s key c = .ok (s', c'))
    (hf : ∀ s c a, F s a → finish s c = .ok (a, c)) :
    Accepts (objectOf expected visit start finish d) d (ObjectStands R F start) := by
  intro c _ a c' hv h
  obtain ⟨ms, s, rfl, hR, hF⟩ := h
  obtain ⟨c₁, d', c₂, hs, hd, hms, hc⟩ := verbatim_object_eq_ok.1 hv
  exact objectOf_eq_ok.2 ⟨c₁, d', c₂, s, c₂, hs, hd, membersFrom_accepts (h d') hms hR,
    hf s c₂ a hF, hc⟩

end SuggestionReview.Json.Reader
