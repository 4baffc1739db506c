import SuggestionReview.Json.Document

namespace SuggestionReview.Json.Reader

variable {α β σ : Type} {c c' : Cursor} {a : α} {b : β}

theorem exists_ok {ε : Type} {P : α → Prop} {r : Except ε α} (h : ∃ a ∈ r.toOption, P a) :
    ∃ a, r = .ok a ∧ P a := by
  cases r with
  | error e => simp [Except.toOption] at h
  | ok b => simpa [Except.toOption] using h

theorem bind_eq_ok {r : Reader α} {f : α → Reader β} :
    (r >>= f) c = .ok (b, c') ↔ ∃ a c₁, r c = .ok (a, c₁) ∧ f a c₁ = .ok (b, c') := by
  change (r c >>= fun x ↦ f x.1 x.2) = _ ↔ _
  constructor
  · intro h
    cases hr : r c with
    | error e => simp [hr, bind, Except.bind] at h
    | ok x => exact ⟨x.1, x.2, rfl, by simpa [hr, bind, Except.bind] using h⟩
  · intro h
    obtain ⟨a, c₁, hr, h⟩ := h
    simpa [hr, bind, Except.bind] using h

theorem bind_of_ok {r : Reader α} {f : α → Reader β} {c₁ : Cursor} (h : r c = .ok (a, c₁)) :
    (r >>= f) c = f a c₁ := by
  change (r c >>= fun x ↦ f x.1 x.2) = _
  rw [h]
  rfl

@[simp] theorem pure_apply : (pure a : Reader α) c = .ok (a, c) := rfl

@[simp] theorem refuse_apply (fault : Malformed) :
    (refuse fault : Reader α) c = .error (.malformed fault c.place) := rfl

@[simp] theorem refuseNext_apply (fault : Malformed) :
    (refuseNext fault : Reader α) c = .error (.malformed fault c.nextPlace) := rfl

@[simp] theorem mismatch_apply (fault : Mismatch) :
    (mismatch fault : Reader α) c = .error (.unplaced fault c) := rfl

@[simp] theorem mismatchHere_apply (fault : Mismatch) :
    (mismatchHere fault : Reader α) c = .error (.mismatch fault c.place) := rfl

@[simp] theorem peek_apply : peek c = .ok (c.rest.head?, c) := rfl

@[simp] theorem advance_apply : advance c = .ok ((), c.advance) := rfl

@[simp] theorem token_apply :
    token c = .ok ((Cursor.skipBlank c.rest c.place).rest.head?, Cursor.skipBlank c.rest c.place) :=
  rfl

@[simp] theorem advance_cons (ch : Char) (rest : List Char) (p : Place) :
    Cursor.advance ⟨ch :: rest, p⟩ = ⟨rest, p.after ch⟩ := rfl

@[simp] theorem advance_bind_apply {f : Unit → Reader β} : (advance >>= f) c = f () c.advance := rfl

@[simp] theorem peek_bind_apply {f : Option Char → Reader β} : (peek >>= f) c = f c.rest.head? c :=
  rfl

@[simp] theorem token_bind_apply {f : Option Char → Reader β} :
    (token >>= f) c =
      f (Cursor.skipBlank c.rest c.place).rest.head? (Cursor.skipBlank c.rest c.place) := rfl

theorem map_eq_ok {r : Reader α} {f : α → β} :
    (f <$> r) c = .ok (b, c') ↔ ∃ a, r c = .ok (a, c') ∧ f a = b := by
  rw [map_eq_pure_bind, bind_eq_ok]
  simp

theorem wrongType_ne_ok (expected : String) : (wrongType expected : Reader α) c ≠ .ok (a, c') := by
  rw [wrongType, ne_eq, bind_eq_ok]
  simp

theorem valueStart_eq_ok {ch : Char} :
    valueStart c = .ok (ch, c') ↔
      Cursor.skipBlank c.rest c.place = c' ∧ c'.rest.head? = some ch := by
  rw [valueStart, bind_of_ok token_apply]
  cases h : (Cursor.skipBlank c.rest c.place).rest.head? with
  | none =>
    refine iff_of_false (by simp) ?_
    intro h
    obtain ⟨rfl, h'⟩ := h
    simp [h] at h'
  | some d =>
    simp only [pure_apply, Except.ok.injEq, Prod.mk.injEq]
    constructor
    · intro h
      obtain ⟨rfl, rfl⟩ := h
      exact ⟨rfl, h⟩
    · intro h
      obtain ⟨rfl, h'⟩ := h
      exact ⟨Option.some.inj (h.symm.trans h'), rfl⟩

theorem skipBlank_skipBlank (cs : List Char) (p : Place) :
    Cursor.skipBlank (Cursor.skipBlank cs p).rest (Cursor.skipBlank cs p).place =
      Cursor.skipBlank cs p := by
  induction cs generalizing p with
  | nil => rfl
  | cons ch rest ih =>
    by_cases h : Cursor.isBlank ch
    · simpa only [Cursor.skipBlank, h, if_true] using ih _
    · simp [Cursor.skipBlank, h]

theorem run_eq_ok {r : Reader α} {s : String} :
    run r s = .ok a ↔ ∃ c, r (.ofText s) = .ok (a, c) ∧ (Cursor.skipBlank c.rest c.place).rest = [] := by
  rw [run]
  cases h : r (.ofText s) with
  | error e => simp [bind, Except.bind]
  | ok x =>
    obtain ⟨b, c⟩ := x
    simp only [bind, Except.bind, token_apply]
    cases hr : (Cursor.skipBlank c.rest c.place).rest with
    | nil =>
      simp only [List.head?_nil, Except.ok.injEq, Prod.mk.injEq]
      constructor
      · rintro rfl
        exact ⟨c, ⟨rfl, rfl⟩, hr⟩
      · intro h
        obtain ⟨_, ⟨rfl, _⟩, _⟩ := h
        rfl
    | cons ch rest =>
      simp only [List.head?_cons, reduceCtorEq, Except.ok.injEq, Prod.mk.injEq, false_iff]
      intro h
      obtain ⟨_, ⟨_, rfl⟩, h'⟩ := h
      simp [hr] at h'

theorem closeList_eq_ok :
    closeList c = (.ok (), c') ↔
      (Cursor.skipBlank c.rest c.place).rest.head? = some ']' ∧
        (Cursor.skipBlank c.rest c.place).advance = c' := by
  rw [closeList]
  generalize Cursor.skipBlank c.rest c.place = c₁
  obtain ⟨_ | ⟨ch, rest⟩, p⟩ := c₁
  · simp
  · dsimp only
    split
    · simp_all
    · simp_all
    · split <;> simp_all
    · simp_all

theorem closeObject_eq_ok :
    closeObject c = (.ok (), c') ↔
      (Cursor.skipBlank c.rest c.place).rest.head? = some '\x7d' ∧
        (Cursor.skipBlank c.rest c.place).advance = c' := by
  rw [closeObject]
  generalize Cursor.skipBlank c.rest c.place = c₁
  obtain ⟨_ | ⟨ch, rest⟩, p⟩ := c₁
  · simp
  · dsimp only
    split <;> simp_all

theorem enclosed_eq_ok {close : Cursor → Except (Malformed × Place) Unit × Cursor}
    {body : Reader α} :
    enclosed close body c = .ok (a, c') ↔
      ∃ c₁, body c.advance = .ok (a, c₁) ∧ close c₁ = (.ok (), c') := by
  rw [enclosed, bind_of_ok advance_apply]
  constructor
  · intro h
    split at h
    · next b c₁ hb =>
      split at h
      · next c₂ hc =>
        simp only [Except.ok.injEq, Prod.mk.injEq] at h
        obtain ⟨rfl, rfl⟩ := h
        exact ⟨c₁, hb, hc⟩
      · simp at h
    · simp at h
    · simp at h
  · intro h
    obtain ⟨c₁, hb, hc⟩ := h
    simp [hb, hc]

end SuggestionReview.Json.Reader
