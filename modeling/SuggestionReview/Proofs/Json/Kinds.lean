import SuggestionReview.Proofs.Json.Decode

namespace SuggestionReview.Json.Reader

variable {α : Type} {c c' : Cursor} {d : Nat}

theorem valueStart_skipBlank :
    valueStart (Cursor.skipBlank c.rest c.place) = valueStart c := by
  rw [valueStart, bind_of_ok token_apply, bind_of_ok token_apply, skipBlank_skipBlank]

theorem verbatim_skipBlank :
    verbatim d (Cursor.skipBlank c.rest c.place) = verbatim d c := by
  cases d <;>
  · rw [verbatim]
    change (valueStart _ >>= fun x ↦ _) = (valueStart _ >>= fun x ↦ _)
    rw [valueStart_skipBlank]

theorem text_skipBlank : text (Cursor.skipBlank c.rest c.place) = text c := by
  rw [text]
  change (valueStart _ >>= fun x ↦ _) = (valueStart _ >>= fun x ↦ _)
  rw [valueStart_skipBlank]

theorem text_eq_ok {s : String} :
    text c = .ok (s, c') ↔
      ∃ c₁, valueStart c = .ok ('"', c₁) ∧ literal c₁.advance = .ok (s, c') := by
  rw [text, bind_eq_ok]
  constructor
  · intro h
    obtain ⟨ch, c₁, hs, h⟩ := h
    split at h
    · exact ⟨c₁, hs, by simpa [bind_eq_ok] using h⟩
    · exact absurd h (wrongType_ne_ok _)
  · intro h
    obtain ⟨c₁, hs, h⟩ := h
    exact ⟨'"', c₁, hs, by simpa [bind_eq_ok] using h⟩

theorem unit_eq_ok :
    unit c = .ok ((), c') ↔
      ∃ c₁, valueStart c = .ok ('n', c₁) ∧ word ['u', 'l', 'l'] c₁.advance = .ok ((), c') := by
  rw [unit, bind_eq_ok]
  constructor
  · intro h
    obtain ⟨ch, c₁, hs, h⟩ := h
    split at h
    · exact ⟨c₁, hs, by simpa [bind_eq_ok] using h⟩
    · exact absurd h (wrongType_ne_ok _)
  · intro h
    obtain ⟨c₁, hs, h⟩ := h
    exact ⟨'n', c₁, hs, by simpa [bind_eq_ok] using h⟩

def TextStands (v : Value) (s : String) : Prop := v = .text s

theorem text_reports : Reports text d TextStands := fun _ s _ h ↦
  ⟨.text s, verbatim_text.2 h, rfl⟩

theorem text_accepts : Accepts text d TextStands := by
  rintro c _ s c' hv rfl
  exact verbatim_text.1 hv

def NullableStands (R : Value → α → Prop) (v : Value) : Option α → Prop
  | none => v = .null
  | some a => v ≠ .null ∧ R v a

theorem verbatim_null_of_start {v : Value} {c₁ : Cursor} (hv : verbatim d c = .ok (v, c'))
    (hs : valueStart c = .ok ('n', c₁)) : v = .null := by
  obtain ⟨ch, c₂, hs', h⟩ := verbatim_eq_ok.1 hv
  obtain ⟨rfl, rfl⟩ := Prod.mk.inj (Except.ok.inj (hs.symm.trans hs'))
  rw [verbatimFrom_eq_ok] at h
  rcases v with _ | (_ | _) | _ | _ | _ | _ <;> simp_all [isDigit]

theorem nullable_eq_ok {r : Reader α} {o : Option α} :
    nullable r c = .ok (o, c') ↔
      match o with
      | none => unit c = .ok ((), c')
      | some a => (∀ c₁, valueStart c ≠ .ok ('n', c₁)) ∧
          r (Cursor.skipBlank c.rest c.place) = .ok (a, c') := by
  rw [nullable, bind_of_ok token_apply]
  simp only [unit_eq_ok, valueStart_eq_ok, ne_eq]
  generalize Cursor.skipBlank c.rest c.place = c₁
  by_cases hn : c₁.rest.head? = some 'n'
  · cases o <;> simp [map_eq_ok, hn, exists_unit_eq_ok]
  · cases o <;> simp [map_eq_ok, hn]

theorem nullable_reports {r : Reader α} {R : Value → α → Prop} (h : Reports r d R) :
    Reports (nullable r) d (NullableStands R) := by
  intro c o c' hr
  rw [nullable_eq_ok] at hr
  cases o with
  | none => exact ⟨.null, verbatim_null.2 hr, rfl⟩
  | some a =>
    obtain ⟨hn, hr⟩ := hr
    obtain ⟨v, hv, hR⟩ := h _ _ _ hr
    rw [verbatim_skipBlank] at hv
    refine ⟨v, hv, ?_, hR⟩
    rintro rfl
    obtain ⟨c₁, hs, _⟩ := unit_eq_ok.1 (verbatim_null.1 hv)
    exact hn c₁ hs

theorem nullable_accepts {r : Reader α} {R : Value → α → Prop} (h : Accepts r d R) :
    Accepts (nullable r) d (NullableStands R) := by
  intro c v o c' hv hR
  rw [nullable_eq_ok]
  cases o with
  | none =>
    obtain rfl : v = .null := hR
    exact verbatim_null.1 hv
  | some a =>
    obtain ⟨hv₀, hR⟩ := hR
    exact ⟨fun c₁ hs ↦ hv₀ (verbatim_null_of_start hv hs),
      h _ _ _ _ (verbatim_skipBlank.trans hv) hR⟩

theorem index_eq_ok {i : Nat} :
    index c = .ok (i, c') ↔ verbatim d c = .ok (.number (.integer i), c') := by
  rw [index, bind_eq_ok, verbatim_eq_ok]
  refine exists_congr fun ch ↦ exists_congr fun c₁ ↦ and_congr_right fun _ ↦ ?_
  rw [verbatimFrom_eq_ok]
  by_cases hch : (decide (ch = '-') || isDigit ch) = true
  · simp only [hch, if_true, true_and, bind_eq_ok]
    constructor
    · intro h
      obtain ⟨x, c₂, hx, h⟩ := h
      match x with
      | .integer (.ofNat j) =>
        simp only [pure_apply, Except.ok.injEq, Prod.mk.injEq] at h
        obtain ⟨rfl, rfl⟩ := h
        exact hx
      | .integer (.negSucc j) => simp at h
      | .real y => simp at h
    · exact fun hx ↦ ⟨_, c', hx, rfl⟩
  · simp only [hch, Bool.false_eq_true, if_false, false_and, iff_false]
    exact wrongType_ne_ok _

theorem choice_eq_ok {choices : List (String × α)} {a : α} :
    choice choices c = .ok (a, c') ↔
      ∃ name, text c = .ok (name, c') ∧ Entries.get? choices name = some a := by
  rw [choice, bind_eq_ok]
  constructor
  · intro h
    obtain ⟨ch, c₁, hs, h⟩ := h
    split at h
    · simp only [bind_eq_ok, advance_apply, Except.ok.injEq, Prod.mk.injEq] at h
      obtain ⟨_, _, ⟨_, rfl⟩, name, c₂, hl, h⟩ := h
      cases hg : Entries.get? choices name with
      | none => simp [hg] at h
      | some a' =>
        simp only [hg, pure_apply, Except.ok.injEq, Prod.mk.injEq] at h
        obtain ⟨rfl, rfl⟩ := h
        exact ⟨name, text_eq_ok.2 ⟨c₁, hs, hl⟩, hg⟩
    · exact absurd h (wrongType_ne_ok _)
  · intro h
    obtain ⟨name, ht, hg⟩ := h
    obtain ⟨c₁, hs, hl⟩ := text_eq_ok.1 ht
    exact ⟨'"', c₁, hs, by simp [bind_of_ok hl, hg]⟩

theorem nextKey_first {key : String} :
    nextKey true c = .ok (some key, c') ↔ text c = .ok (key, c') := by
  rw [nextKey, bind_of_ok token_apply, text_eq_ok]
  simp only [valueStart_eq_ok]
  generalize Cursor.skipBlank c.rest c.place = c₁
  rcases h : c₁.rest.head? with _ | ch
  · simp [h]
  · by_cases hq : ch = '"'
    · simp [h, hq, map_eq_ok]
    · by_cases hb : ch = '\x7d' <;> simp [h, hq, hb]

theorem nextKey_none {first : Bool} :
    nextKey first c = .ok (none, c') ↔
      Cursor.skipBlank c.rest c.place = c' ∧ c'.rest.head? = some '\x7d' := by
  rw [nextKey, bind_of_ok token_apply]
  generalize Cursor.skipBlank c.rest c.place = c₁
  constructor
  · intro h
    rcases hc : c₁.rest.head? with _ | ch
    · simp [hc] at h
    · by_cases hb : ch = '\x7d'
      · simp only [hc, hb, pure_apply, Except.ok.injEq, Prod.mk.injEq] at h
        obtain ⟨_, rfl⟩ := h
        exact ⟨rfl, hb ▸ hc⟩
      · exfalso
        cases first
        · by_cases hs : ch = ','
          · simp [hc, hs] at h
            revert h
            generalize Cursor.skipBlank c₁.advance.rest c₁.advance.place = c₂
            intro h
            rcases hc₂ : c₂.rest.head? with _ | ch'
            · simp [hc₂] at h
            · by_cases hq : ch' = '"'
              · simp [hc₂, hq, map_eq_ok] at h
              · by_cases hb' : ch' = '\x7d' <;> simp [hc₂, hb'] at h
          · simp [hc, hs] at h
        · by_cases hq : ch = '"' <;> simp [hc, hq, map_eq_ok] at h
  · intro h
    obtain ⟨rfl, h⟩ := h
    simp [h]

/-- A name stands for a choice, alone or as the key of a null. -/
def ChoiceStands (choices : List (String × α)) (v : Value) (a : α) : Prop :=
  ∃ name, (v = .text name ∨ v = .object [(name, .null)]) ∧ Entries.get? choices name = some a

theorem rest_ne_nil_of_text {s : String} (h : text c = .ok (s, c')) : c.rest ≠ [] := by
  obtain ⟨c₁, hs, _⟩ := text_eq_ok.1 h
  obtain ⟨rfl, hc⟩ := valueStart_eq_ok.1 hs
  rintro hnil
  simp [hnil, Cursor.skipBlank] at hc

theorem verbatim_single_null {name : String} :
    verbatim d c = .ok (.object [(name, .null)], c') ↔
      ∃ c₁ d' c₂ c₃ c₄, valueStart c = .ok ('\x7b', c₁) ∧ d = d' + 1 ∧
        text c₁.advance = .ok (name, c₂) ∧ colon c₂ = .ok ((), c₃) ∧ unit c₃ = .ok ((), c₄) ∧
        (Cursor.skipBlank c₄.rest c₄.place).rest.head? = some '\x7d' ∧
        (Cursor.skipBlank c₄.rest c₄.place).advance = c' := by
  rw [verbatim_object_eq_ok]
  constructor
  · intro h
    obtain ⟨c₁, d', c₅, hs, rfl, hp, hc⟩ := h
    obtain ⟨n, hn⟩ : ∃ n, c₁.advance.rest.length + 1 = n + 1 := ⟨_, rfl⟩
    rw [hn, pairsFrom, bind_eq_ok] at hp
    obtain ⟨key, c₂, hk, hp⟩ := hp
    cases key with
    | none => simp at hp
    | some key =>
      simp only [bind_eq_ok, pure_apply, Except.ok.injEq, Prod.mk.injEq, List.cons.injEq] at hp
      obtain ⟨v, c₄, hv, ms, c₆, hms, ⟨⟨rfl, rfl⟩, rfl⟩, rfl⟩ := hp
      obtain ⟨_, c₃, hcol, hu⟩ := bind_eq_ok.1 hv
      cases n with
      | zero => simp [pairsFrom] at hms
      | succ n =>
        rw [pairsFrom, bind_eq_ok] at hms
        obtain ⟨key', c₇, hk', hms⟩ := hms
        cases key' with
        | some key' => simp [bind_eq_ok, map_eq_ok] at hms
        | none =>
          obtain ⟨rfl, hb⟩ := nextKey_none.1 hk'
          obtain rfl := (Prod.mk.inj (Except.ok.inj hms)).2
          refine ⟨c₁, d', c₂, c₃, c₄, hs, rfl, nextKey_first.1 hk, hcol, verbatim_null.1 hu, hb, ?_⟩
          rw [closeObject_eq_ok, skipBlank_skipBlank] at hc
          exact hc.2
  · intro h
    obtain ⟨c₁, d', c₂, c₃, c₄, hs, rfl, ht, hcol, hu, hb, rfl⟩ := h
    obtain ⟨n, hn⟩ :=
      Nat.exists_eq_succ_of_ne_zero (mt List.length_eq_zero_iff.1 (rest_ne_nil_of_text ht))
    refine ⟨c₁, d', _, hs, rfl, ?_, closeObject_eq_ok.2 (by rw [skipBlank_skipBlank]; exact ⟨hb, rfl⟩)⟩
    rw [hn, pairsFrom, bind_of_ok (nextKey_first.2 ht)]
    have hv : memberValue d' c₂ = .ok (.null, c₄) := bind_eq_ok.2 ⟨(), c₃, hcol, verbatim_null.2 hu⟩
    dsimp only
    rw [bind_of_ok hv, pairsFrom, bind_assoc, bind_of_ok (nextKey_none.2 ⟨rfl, hb⟩)]
    rfl

theorem variant_reports {choices : List (String × α)} :
    Reports (variant choices d) d (ChoiceStands choices) := by
  intro c a c' hr
  rw [variant, bind_of_ok token_apply] at hr
  have hstart : ∀ ch, (Cursor.skipBlank c.rest c.place).rest.head? = some ch →
      valueStart c = .ok (ch, Cursor.skipBlank c.rest c.place) := fun ch h ↦
    valueStart_eq_ok.2 ⟨rfl, h⟩
  rcases hc : (Cursor.skipBlank c.rest c.place).rest.head? with _ | ch
  · simp [hc] at hr
  · by_cases hb : ch = '\x7b'
    · subst hb
      cases d with
      | zero => simp [hc] at hr
      | succ d =>
        simp only [hc, bind_eq_ok, advance_apply, token_apply, Except.ok.injEq, Prod.mk.injEq] at hr
        obtain ⟨_, _, ⟨-, rfl⟩, a', c₂, hch, _, c₃, hcol, _, c₄, hu, _, _, ⟨rfl, rfl⟩, hr⟩ := hr
        obtain ⟨name, ht, hg⟩ := choice_eq_ok.1 hch
        rcases hc₄ : (Cursor.skipBlank c₄.rest c₄.place).rest.head? with _ | ch'
        · simp [hc₄] at hr
        · by_cases hb' : ch' = '\x7d'
          · subst hb'
            simp only [hc₄, bind_eq_ok, advance_apply, pure_apply, Except.ok.injEq,
              Prod.mk.injEq] at hr
            obtain ⟨_, _, ⟨-, rfl⟩, rfl, rfl⟩ := hr
            exact ⟨_, verbatim_single_null.2
              ⟨_, _, c₂, c₃, c₄, hstart _ hc, rfl, ht, hcol, hu, hc₄, rfl⟩, name, .inr rfl, hg⟩
          · simp [hc₄] at hr
    · by_cases hq : ch = '"'
      · subst hq
        obtain ⟨name, ht, hg⟩ := choice_eq_ok.1 (by simpa [hc] using hr)
        exact ⟨.text name, verbatim_text.2 (text_skipBlank.symm.trans ht), name, .inl rfl, hg⟩
      · simp [hc, hb] at hr

theorem variant_accepts {choices : List (String × α)} :
    Accepts (variant choices d) d (ChoiceStands choices) := by
  rintro c v a c' hv ⟨name, rfl | rfl, hg⟩
  · have ht := verbatim_text.1 hv
    obtain ⟨c₁, hs, _⟩ := text_eq_ok.1 ht
    obtain ⟨rfl, hq⟩ := valueStart_eq_ok.1 hs
    rw [variant, bind_of_ok token_apply, hq]
    exact choice_eq_ok.2 ⟨name, text_skipBlank.trans ht, hg⟩
  · obtain ⟨c₁, d', c₂, c₃, c₄, hs, rfl, ht, hcol, hu, hb, rfl⟩ := verbatim_single_null.1 hv
    obtain ⟨rfl, hh⟩ := valueStart_eq_ok.1 hs
    rw [variant, bind_of_ok token_apply, hh]
    have hch := choice_eq_ok.2 ⟨name, ht, hg⟩
    simp [bind_of_ok hch, bind_of_ok hcol, bind_of_ok hu, hb, map_eq_ok]

variable {R : Value → α → Prop} {σ : Type}

theorem once_eq_ok {name : String} {before : Option α} {r : Reader α} {a : α} :
    once name before r c = .ok (a, c') ↔
      before = none ∧ ∃ c₁, colon c = .ok ((), c₁) ∧ r c₁ = .ok (a, c') := by
  rw [once]
  cases before with
  | none =>
    simp only [Option.isSome_none, Bool.false_eq_true, if_false, bind_eq_ok, true_and]
    exact ⟨fun ⟨_, h⟩ ↦ h, fun h ↦ ⟨_, h⟩⟩
  | some b => simp

theorem once_reports {name : String} {before : Option α} {r : Reader α} (h : Reports r d R)
    {a : α} (hr : once name before r c = .ok (a, c')) :
    before = none ∧ ∃ v, memberValue d c = .ok (v, c') ∧ R v a := by
  obtain ⟨hb, c₁, hcol, hr⟩ := once_eq_ok.1 hr
  obtain ⟨v, hv, hR⟩ := h _ _ _ hr
  exact ⟨hb, v, bind_eq_ok.2 ⟨(), c₁, hcol, hv⟩, hR⟩

theorem once_accepts {name : String} {r : Reader α} (h : Accepts r d R) {v : Value} {a : α}
    (hv : memberValue d c = .ok (v, c')) (hR : R v a) : once name none r c = .ok (a, c') := by
  obtain ⟨_, c₁, hcol, hv⟩ := bind_eq_ok.1 hv
  exact once_eq_ok.2 ⟨rfl, c₁, hcol, h _ _ _ _ hv hR⟩

theorem set_reports {name : String} {before : Option α} {r : Reader α} {set : α → σ} {s : σ}
    (h : Reports r d R) (hr : (once name before r >>= fun a ↦ pure (set a)) c = .ok (s, c')) :
    ∃ v, memberValue d c = .ok (v, c') ∧ before = none ∧ ∃ a, R v a ∧ s = set a := by
  simp only [bind_eq_ok, pure_apply, Except.ok.injEq, Prod.mk.injEq] at hr
  obtain ⟨a, c₁, ha, rfl, rfl⟩ := hr
  obtain ⟨hb, v, hv, hR⟩ := once_reports h ha
  exact ⟨v, hv, hb, a, hR, rfl⟩

theorem set_accepts {name : String} {before : Option α} {r : Reader α} {set : α → σ} {s : σ}
    {v : Value} (h : Accepts r d R) (hv : memberValue d c = .ok (v, c'))
    (hs : before = none ∧ ∃ a, R v a ∧ s = set a) :
    (once name before r >>= fun a ↦ pure (set a)) c = .ok (s, c') := by
  obtain ⟨rfl, a, hR, rfl⟩ := hs
  rw [bind_of_ok (once_accepts h hv hR)]
  rfl

end SuggestionReview.Json.Reader
