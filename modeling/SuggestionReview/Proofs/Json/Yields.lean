import SuggestionReview.Proofs.Json.Kinds

namespace SuggestionReview.Json.Reader

variable {α β σ : Type} {P : α → Prop} {d : Nat}

def Yields (r : Reader α) (P : α → Prop) : Prop :=
  ∀ c a c', r c = .ok (a, c') → P a

theorem Yields.mono {Q : α → Prop} {r : Reader α} (h : Yields r P) (hPQ : ∀ a, P a → Q a) :
    Yields r Q := fun c a c' hr ↦ hPQ a (h c a c' hr)

theorem yields_true (r : Reader α) : Yields r fun _ ↦ True := fun _ _ _ _ ↦ trivial

theorem Yields.pure {a : α} (h : P a) : Yields (pure a) P := by
  intro c b c' hr
  simp only [pure_apply, Except.ok.injEq, Prod.mk.injEq] at hr
  exact hr.1 ▸ h

theorem Yields.mismatch (fault : Mismatch) : Yields (mismatch fault) P := by
  intro c a c' hr
  simp at hr

theorem Yields.bind {r : Reader α} {f : α → Reader β} {Q : β → Prop} (hr : Yields r P)
    (hf : ∀ a, P a → Yields (f a) Q) : Yields (r >>= f) Q := by
  intro c b c' h
  obtain ⟨a, c₁, ha, hb⟩ := bind_eq_ok.1 h
  exact hf a (hr _ _ _ ha) _ _ _ hb

theorem Yields.once {name : String} {before : Option α} {r : Reader α} (h : Yields r P) :
    Yields (once name before r) P := by
  intro c a c' hr
  obtain ⟨-, c₁, -, hr⟩ := once_eq_ok.1 hr
  exact h _ _ _ hr

theorem Yields.required {name : String} {o : Option α} (h : ∀ a ∈ o, P a) :
    Yields (required name o) P := by
  cases o with
  | none => exact .mismatch _
  | some a => exact .pure (h a rfl)

theorem Yields.nullable {r : Reader α} (h : Yields r P) :
    Yields (nullable r) fun o ↦ ∀ a ∈ o, P a := by
  rintro c o c' hr a rfl
  exact h _ _ _ (nullable_eq_ok.1 hr).2

theorem Yields.fieldInOrder? {first : Bool} {r : Reader α} (h : Yields r P) :
    Yields (fieldInOrder? first r) fun o ↦ ∀ a ∈ o, P a := by
  refine .bind (yields_true _) fun more _ ↦ ?_
  cases more with
  | false => exact .pure (by simp)
  | true =>
    rintro c o c' hr a rfl
    obtain ⟨b, hb, hba⟩ := map_eq_ok.1 (by simpa using hr)
    exact Option.some.inj hba ▸ h _ _ _ hb

theorem Yields.listOf {item : Nat → Reader α} (h : ∀ d' < d, Yields (item d') P) :
    Yields (listOf item d) fun as ↦ ∀ a ∈ as, P a := by
  intro c as c' hr a ha
  obtain ⟨c₁, d', c₂, -, rfl, hi, -⟩ := listOf_eq_ok.1 hr
  obtain ⟨c₃, c₄, hc⟩ := itemsFrom_mem hi ha
  exact h d' (Nat.lt_succ_self d') _ _ _ hc

theorem membersFrom_yields {visit : σ → String → Reader σ} {I : σ → Prop}
    (h : ∀ s key, I s → Yields (visit s key) I) {n : Nat} {first : Bool} {s s' : σ}
    {c c' : Cursor} (hr : membersFrom visit n first s c = .ok (s', c')) (hs : I s) : I s' := by
  induction n generalizing first c s with
  | zero => simp [membersFrom] at hr
  | succ n ih =>
    rw [membersFrom, bind_eq_ok] at hr
    obtain ⟨key, c₁, -, hr⟩ := hr
    cases key with
    | none =>
      simp only [pure_apply, Except.ok.injEq, Prod.mk.injEq] at hr
      exact hr.1 ▸ hs
    | some key =>
      obtain ⟨s₁, c₂, hv, hr⟩ := bind_eq_ok.1 hr
      exact ih hr (h s key hs _ _ _ hv)

theorem Yields.objectOf {expected : String} {visit : Nat → σ → String → Reader σ} {start : σ}
    {finish : σ → Reader α} {I : σ → Prop}
    (h : ∀ d' < d, ∀ s key, I s → Yields (visit d' s key) I) (hs : I start)
    (hf : ∀ s, I s → Yields (finish s) P) : Yields (objectOf expected visit start finish d) P := by
  intro c a c' hr
  obtain ⟨c₁, d', c₂, s, c₃, -, rfl, hm, hfin, -⟩ := objectOf_eq_ok.1 hr
  exact hf s (membersFrom_yields (h d' (Nat.lt_succ_self d')) hm hs) _ _ _ hfin

theorem Yields.recordOf {expected : String} {visit : Nat → σ → String → Reader σ} {start : σ}
    {finish : σ → Reader α} {inOrder : Nat → Reader α}
    (ho : Yields (Reader.objectOf expected visit start finish d) P)
    (hi : ∀ d' < d, Yields (inOrder d') P) :
    Yields (recordOf expected visit start finish inOrder d) P := by
  intro c a c' hr
  rw [Reader.recordOf, bind_eq_ok] at hr
  obtain ⟨ch, c₁, -, hr⟩ := hr
  split at hr
  · simp at hr
  · obtain ⟨c₂, hb, -⟩ := enclosed_eq_ok.1 hr
    exact hi _ (Nat.lt_succ_self _) _ _ _ hb
  · exact ho _ _ _ hr

end SuggestionReview.Json.Reader
