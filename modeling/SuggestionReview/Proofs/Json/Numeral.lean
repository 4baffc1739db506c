import Mathlib.Data.List.TakeWhile
import SuggestionReview.Json.Value
import SuggestionReview.Proofs.Json.Success

namespace SuggestionReview.Json

open Reader (isDigit)

variable {α β : Type}

namespace Numeral

theorem digitsValue_append (s : Nat) (xs ys : List Char) :
    digitsValue s (xs ++ ys) = digitsValue (digitsValue s xs) ys := List.foldl_append

theorem digitsValue_toDigits (n : Nat) : digitsValue 0 (Nat.toDigits 10 n) = n := by
  induction n using Nat.strongRecOn with
  | ind n ih =>
    have hd : ∀ m s, m < 10 → digitsValue s [m.digitChar] = 10 * s + m := fun m s hm ↦
      congrArg (10 * s + ·) (Nat.toNat_digitChar_sub_48_of_lt_ten hm)
    by_cases h : n < 10
    · rw [Nat.toDigits_of_lt_base h, hd n 0 h, Nat.mul_zero, Nat.zero_add]
    · rw [Nat.toDigits_of_base_le (by decide) (by omega), digitsValue_append, ih (n / 10) (by omega),
        hd _ _ (Nat.mod_lt n (by decide))]
      omega

theorem le_digitsValue (s : Nat) (digits : List Char) : s ≤ digitsValue s digits := by
  induction digits generalizing s with
  | nil => exact Nat.le_refl s
  | cons d rest ih =>
    have h : s ≤ 10 * s + digitValue d := by omega
    exact Nat.le_trans h (ih _)

theorem absorb_of_lt {s : Nat} {digits : List Char} (h : digitsValue s digits < twoTo 64) :
    absorb s digits = (digitsValue s digits, digits.length) := by
  induction digits generalizing s with
  | nil => rfl
  | cons d rest ih =>
    have hs : 10 * s + digitValue d < twoTo 64 := Nat.lt_of_le_of_lt (le_digitsValue _ rest) h
    rw [absorb]
    simp only [hs, if_true, ih h]
    rfl

theorem absorb_lt {s : Nat} (h : s < twoTo 64) (digits : List Char) :
    (absorb s digits).1 < twoTo 64 := by
  induction digits generalizing s with
  | nil => exact h
  | cons d rest ih =>
    rw [absorb]
    by_cases hs : 10 * s + digitValue d < twoTo 64
    · simpa only [hs, if_true] using ih hs
    · simpa only [hs, if_false] using h

end Numeral

theorem twoTo_63_lt_twoTo_64 : twoTo 63 < twoTo 64 := by decide

def Number.InRange : Number → Prop
  | .integer n => -(twoTo 63 : Int) ≤ n ∧ n < twoTo 64
  | .real _ => True

theorem Numeral.inRange_of_number? {l : Numeral} {n : Number} (h : l.number? = some n) :
    n.InRange := by
  have hs := absorb_lt (s := 0) (by decide) l.whole
  unfold number? at h
  split at h
  next s taken heq =>
    rw [heq] at hs
    dsimp only at h hs
    split at h
    · obtain rfl := Option.some.inj h
      simp only [Number.InRange]
      omega
    · split at h
      · next hc =>
        obtain rfl := Option.some.inj h
        simp only [Bool.and_eq_true, decide_eq_true_eq] at hc
        simp only [Number.InRange]
        omega
      · obtain ⟨x, -, rfl⟩ := Option.map_eq_some_iff.1 h
        trivial

theorem Reader.number_eq_ok {c c' : Cursor} {n : Number} :
    Reader.number c = .ok (n, c') ↔
      ∃ l, Reader.numeral .endInValue c = .ok (l, c') ∧ l.number? = some n := by
  rw [Reader.number, bind_eq_ok]
  constructor
  · intro h
    obtain ⟨l, c₁, hl, h⟩ := h
    cases hn : l.number? with
    | none => simp [hn] at h
    | some m =>
      simp only [hn, pure_apply, Except.ok.injEq, Prod.mk.injEq] at h
      obtain ⟨rfl, rfl⟩ := h
      exact ⟨l, hl, hn⟩
  · intro h
    obtain ⟨l, hl, hn⟩ := h
    exact ⟨l, c', hl, by simp [hn]⟩

theorem Reader.inRange_of_number {c c' : Cursor} {n : Number} (h : Reader.number c = .ok (n, c')) :
    n.InRange := by
  obtain ⟨l, -, hn⟩ := Reader.number_eq_ok.1 h
  exact Numeral.inRange_of_number? hn

namespace Reader

def continuesNumber (ch : Char) : Bool :=
  isDigit ch || ch = '-' || ch = '+' || ch = '.' || ch = 'e' || ch = 'E'

theorem continuesNumber_eq_false {ch : Char} :
    continuesNumber ch = false ↔
      isDigit ch = false ∧ ch ≠ '-' ∧ ch ≠ '+' ∧ ch ≠ '.' ∧ ch ≠ 'e' ∧ ch ≠ 'E' := by
  simp [continuesNumber, and_assoc]

/-- No number goes on with what is left. -/
def Separated (rest : List Char) : Prop := ∀ ch ∈ rest.head?, continuesNumber ch = false

/-- What the reader reads of a text it also reads when something separated follows. -/
def Local (r : Reader α) : Prop :=
  ∀ w p a u p', r ⟨w, p⟩ = .ok (a, ⟨u, p'⟩) → ∀ rest, Separated rest → ∀ q,
    ∃ q', r ⟨w ++ rest, q⟩ = .ok (a, ⟨u ++ rest, q'⟩)

theorem Local.pure (a : α) : Local (pure a) := by
  intro w p b u p' h rest hrest q
  simp only [pure_apply, Except.ok.injEq, Prod.mk.injEq, Cursor.mk.injEq] at h
  obtain ⟨rfl, rfl, rfl⟩ := h
  exact ⟨q, rfl⟩

theorem Local.bind {r : Reader α} {f : α → Reader β} (hr : Local r) (hf : ∀ a, Local (f a)) :
    Local (r >>= f) := by
  intro w p b u p' h rest hrest q
  obtain ⟨a, ⟨v, p₁⟩, ha, hb⟩ := bind_eq_ok.1 h
  obtain ⟨q₁, hq₁⟩ := hr _ _ _ _ _ ha rest hrest q
  obtain ⟨q', hq'⟩ := hf a _ _ _ _ _ hb rest hrest q₁
  exact ⟨q', bind_eq_ok.2 ⟨a, _, hq₁, hq'⟩⟩

def LocalAtEnd (f : Option Char → Reader α) : Prop :=
  ∀ a u p p', f none ⟨[], p⟩ = .ok (a, ⟨u, p'⟩) → ∀ rest, Separated rest → ∀ q,
    ∃ q', f rest.head? ⟨rest, q⟩ = .ok (a, ⟨u ++ rest, q'⟩)

theorem LocalAtEnd.of_eq {f : Option Char → Reader α} {r : Reader α} (hr : Local r)
    (h : ∀ next : Option Char, (∀ ch ∈ next, continuesNumber ch = false) → f next = r) :
    LocalAtEnd f := by
  intro a u p p' ha rest hrest q
  rw [h none (by simp)] at ha
  rw [h rest.head? hrest]
  exact hr _ _ _ _ _ ha rest hrest q

theorem LocalAtEnd.of_refuse {f : Option Char → Reader α} {fault : Malformed}
    (h : f none = refuse fault) : LocalAtEnd f := by
  intro a u p p' ha
  simp [h] at ha

theorem Local.peek {f : Option Char → Reader α} (hnone : LocalAtEnd f)
    (hsome : ∀ ch w p a u p', f (some ch) ⟨ch :: w, p⟩ = .ok (a, ⟨u, p'⟩) →
      ∀ rest, Separated rest → ∀ q,
      ∃ q', f (some ch) ⟨ch :: w ++ rest, q⟩ = .ok (a, ⟨u ++ rest, q'⟩)) :
    Local (peek >>= f) := by
  intro w p a u p' h rest hrest q
  cases w with
  | nil => exact hnone _ _ _ _ h _ hrest q
  | cons ch w => exact hsome _ _ _ _ _ _ h _ hrest q

theorem Local.advance {r : Reader α} (hr : Local r) {ch : Char} {w u : List Char} {p p' : Place}
    {a : α} (h : (do advance; r) ⟨ch :: w, p⟩ = .ok (a, ⟨u, p'⟩)) {rest : List Char}
    (hrest : Separated rest) (q : Place) :
    ∃ q', (do advance; r) ⟨ch :: w ++ rest, q⟩ = .ok (a, ⟨u ++ rest, q'⟩) :=
  hr _ _ _ _ _ h rest hrest _

theorem takeWhile_append_separated {w rest : List Char} (h : Separated rest) :
    (w ++ rest).takeWhile isDigit = w.takeWhile isDigit ∧
      (w ++ rest).dropWhile isDigit = w.dropWhile isDigit ++ rest := by
  induction w with
  | nil =>
    cases rest with
    | nil => exact ⟨rfl, rfl⟩
    | cons ch rest =>
      simp [(continuesNumber_eq_false.1 (h ch rfl)).1]
  | cons ch w ih => by_cases hch : isDigit ch <;> simp [hch, ih]

theorem local_span : Local (span isDigit) := by
  intro w p a u p' h rest hrest q
  simp only [span, Except.ok.injEq, Prod.mk.injEq, Cursor.mk.injEq] at h
  obtain ⟨rfl, rfl, -⟩ := h
  obtain ⟨h₁, h₂⟩ := takeWhile_append_separated (w := w) hrest
  exact ⟨_, by rw [span, h₁, h₂]⟩

theorem local_wholeDigits (atEnd : Malformed) : Local (wholeDigits atEnd) := by
  rw [wholeDigits]
  refine .peek (.of_refuse rfl) fun ch ↦ ?_
  by_cases h₀ : ch = '0'
  · subst h₀
    refine fun w p a u p' h rest hrest q ↦ Local.advance (.peek (.of_eq (.pure ['0']) ?_) ?_) h hrest q
    · rintro (_ | ch) hch
      · rfl
      · simp [(continuesNumber_eq_false.1 (hch ch rfl)).1]
    · intro ch w
      by_cases hch : isDigit ch
      · intro p a u p' h
        simp [hch] at h
      · simpa only [hch, Bool.false_eq_true, if_false] using Local.pure ['0'] (ch :: w)
  · intro w
    by_cases hch : isDigit ch
    · simpa [h₀, hch] using local_span (ch :: w)
    · intro p a u p' h
      simp [hch] at h

theorem local_fractionDigits (atEnd : Malformed) : Local (fractionDigits atEnd) := by
  rw [fractionDigits]
  refine .peek (.of_eq (.pure none) ?_) fun ch ↦ ?_
  · rintro (_ | ch) hch
    · rfl
    · simp [(continuesNumber_eq_false.1 (hch ch rfl)).2.2.2.1]
  · by_cases hdot : ch = '.'
    · subst hdot
      refine fun w p a u p' h rest hrest q ↦ Local.advance (.bind local_span fun digits ↦ ?_) h hrest q
      cases digits with
      | nil =>
        exact .peek (.of_refuse rfl) fun ch w p a u p' h ↦ by simp at h
      | cons d digits => exact .pure _
    · intro w
      simp [hdot]

theorem local_powerEnd (atEnd : Malformed) (up : Bool) : Local (do
    match ← peek with
    | none => refuse atEnd
    | some c =>
      if isDigit c then (fun digits ↦ some (up, digits)) <$> span isDigit
      else refuseNext .numeral) := by
  refine .peek (.of_refuse rfl) fun ch w ↦ ?_
  by_cases hch : isDigit ch
  · simpa only [hch, if_true, map_eq_pure_bind] using
      Local.bind local_span (fun digits ↦ .pure _) (ch :: w)
  · intro p a u p' h
    simp [hch] at h

theorem local_powerDigits (atEnd : Malformed) : Local (powerDigits atEnd) := by
  rw [powerDigits]
  refine .peek (.of_eq (.pure none) ?_) fun ch ↦ ?_
  · rintro (_ | ch) hch
    · rfl
    · simp [(continuesNumber_eq_false.1 (hch ch rfl)).2.2.2.2]
  · by_cases hmark : (decide (ch = 'e') || decide (ch = 'E')) = true
    · simp only [hmark, if_true, pure_bind, bind_pure_comp]
      refine fun w p a u p' h rest hrest q ↦ Local.advance (.peek ?_ fun ch ↦ ?_) h hrest q
      · refine .of_eq (local_powerEnd atEnd true) ?_
        rintro (_ | ch) hch
        · rfl
        · obtain ⟨-, hm, hp, -⟩ := continuesNumber_eq_false.1 (hch ch rfl)
          split
          · next heq => exact absurd (Option.some.inj heq) hp
          · next heq => exact absurd (Option.some.inj heq) hm
          · rfl
      · by_cases hplus : ch = '+'
        · subst hplus
          exact fun w p a u p' h rest hrest q ↦ Local.advance (local_powerEnd atEnd true) h hrest q
        · by_cases hminus : ch = '-'
          · subst hminus
            exact fun w p a u p' h rest hrest q ↦
              Local.advance (local_powerEnd atEnd false) h hrest q
          · intro w
            simp [hplus, hminus]
            exact local_powerEnd atEnd true (ch :: w)
    · intro w
      simpa only [hmark, Bool.false_eq_true, if_false] using Local.pure none (ch :: w)

def unsigned (atEnd : Malformed) (negative : Bool) : Reader Numeral := do
  let whole ← wholeDigits atEnd
  let fraction ← fractionDigits atEnd
  let power ← powerDigits atEnd
  pure ⟨negative, whole, fraction, power⟩

theorem numeral_eq (atEnd : Malformed) :
    numeral atEnd = peek >>= fun next ↦
      if next = some '-' then (advance >>= fun _ ↦ unsigned atEnd true)
      else unsigned atEnd false := by
  rw [numeral]
  congr 1
  funext next
  rcases next with _ | ch
  · rfl
  · by_cases hminus : ch = '-'
    · subst hminus
      rfl
    · simp [hminus]
      rfl

theorem local_unsigned (atEnd : Malformed) (negative : Bool) : Local (unsigned atEnd negative) :=
  .bind (local_wholeDigits atEnd) fun _ ↦ .bind (local_fractionDigits atEnd) fun _ ↦
    .bind (local_powerDigits atEnd) fun _ ↦ .pure _

theorem local_numeral (atEnd : Malformed) : Local (numeral atEnd) := by
  rw [numeral_eq]
  refine .peek (.of_eq (local_unsigned atEnd false) ?_) fun ch ↦ ?_
  · intro next hnext
    refine if_neg fun hminus ↦ ?_
    exact (continuesNumber_eq_false.1 (hnext '-' hminus)).2.1 rfl
  · by_cases hminus : ch = '-'
    · subst hminus
      exact fun w p a u p' h rest hs q ↦ Local.advance (local_unsigned atEnd true) h hs q
    · intro w
      simpa [hminus] using local_unsigned atEnd false (ch :: w)

theorem local_number : Local number := by
  intro w p n u p' h rest hrest q
  obtain ⟨l, hl, hn⟩ := number_eq_ok.1 h
  obtain ⟨q', hq'⟩ := local_numeral _ _ _ _ _ _ hl rest hrest q
  exact ⟨q', number_eq_ok.2 ⟨l, hq', hn⟩⟩

theorem start_of_wholeDigits {atEnd : Malformed} {c c' : Cursor} {digits : List Char}
    (h : wholeDigits atEnd c = .ok (digits, c')) : ∃ ch ∈ c.rest.head?, isDigit ch := by
  rw [wholeDigits, bind_of_ok peek_apply] at h
  cases hc : c.rest.head? with
  | none => simp [hc] at h
  | some ch =>
    refine ⟨ch, rfl, ?_⟩
    by_cases h₀ : ch = '0'
    · exact h₀ ▸ rfl
    · by_cases hd : isDigit ch
      · exact hd
      · simp [hc, hd] at h

theorem start_of_number {c c' : Cursor} {n : Number} (h : number c = .ok (n, c')) :
    ∃ ch ∈ c.rest.head?, ch = '-' ∨ isDigit ch := by
  obtain ⟨l, hl, -⟩ := number_eq_ok.1 h
  by_cases hminus : c.rest.head? = some '-'
  · exact ⟨'-', hminus, .inl rfl⟩
  · rw [numeral_eq, bind_of_ok peek_apply, if_neg hminus] at hl
    obtain ⟨digits, c₁, hw, -⟩ := bind_eq_ok.1 hl
    obtain ⟨ch, hch, hd⟩ := start_of_wholeDigits hw
    exact ⟨ch, hch, .inr hd⟩

end Reader

def Number.ReadsBack (n : Number) : Prop :=
  ∃ p, Reader.number (.ofText (String.ofList n.write)) = .ok (n, ⟨[], p⟩)

deriving instance DecidableEq for Number

instance (n : Number) : Decidable n.ReadsBack :=
  decidable_of_iff ((Reader.number (.ofText (String.ofList n.write))).toOption.any fun x ↦
    decide (x.1 = n ∧ x.2.rest = [])) <| by
    unfold Number.ReadsBack
    rcases Reader.number (.ofText (String.ofList n.write)) with e | ⟨m, ⟨rest, p⟩⟩ <;>
      simp [Except.toOption]

theorem Number.ReadsBack.number {n : Number} (h : n.ReadsBack) {rest : List Char}
    (hrest : Reader.Separated rest) (p : Place) :
    ∃ p', Reader.number ⟨n.write ++ rest, p⟩ = .ok (n, ⟨rest, p'⟩) := by
  obtain ⟨p', hp'⟩ := h
  rw [Cursor.ofText, String.toList_ofList] at hp'
  exact Reader.local_number _ _ _ _ _ hp' rest hrest p

theorem Number.ReadsBack.start {n : Number} (h : n.ReadsBack) :
    ∃ ch ∈ n.write.head?, ch = '-' ∨ isDigit ch := by
  obtain ⟨p', hp'⟩ := h
  rw [Cursor.ofText, String.toList_ofList] at hp'
  exact Reader.start_of_number hp'

theorem isDigit_eq (ch : Char) : isDigit ch = ch.isDigit := rfl

theorem Numeral.isDigit_of_mem {n : Nat} {ch : Char} (h : ch ∈ Nat.toDigits 10 n) :
    isDigit ch = true :=
  (isDigit_eq ch).trans (Nat.isDigit_of_mem_toDigits (by decide) (by decide) h)

theorem Numeral.head_toDigits {n : Nat} (h : 0 < n) : (Nat.toDigits 10 n).head? ≠ some '0' := by
  induction n using Nat.strongRecOn with
  | ind n ih =>
    by_cases hn : n < 10
    · rw [Nat.toDigits_of_lt_base hn, List.head?_cons, ne_eq, Option.some.injEq,
        Nat.digitChar_eq_zero]
      omega
    · obtain ⟨ch, rest, hd⟩ := List.exists_cons_of_ne_nil (@Nat.toDigits_ne_nil (n / 10) 10)
      have hz := ih (n / 10) (by omega) (by omega)
      rw [hd] at hz
      rwa [Nat.toDigits_of_base_le (by decide) (by omega), hd]

theorem Reader.wholeDigits_toDigits (n : Nat) (atEnd : Malformed) (p : Place) :
    ∃ p', Reader.wholeDigits atEnd ⟨Nat.toDigits 10 n, p⟩ = .ok (Nat.toDigits 10 n, ⟨[], p'⟩) := by
  rcases Nat.eq_zero_or_pos n with rfl | hn
  · exact ⟨_, rfl⟩
  · have hz := Numeral.head_toDigits hn
    have hd := fun ch ↦ @Numeral.isDigit_of_mem n ch
    obtain ⟨ch, rest, h⟩ := List.exists_cons_of_ne_nil (@Nat.toDigits_ne_nil n 10)
    rw [h] at hz hd ⊢
    have h₀ : ch ≠ '0' := fun h₀ ↦ hz (congrArg some h₀)
    have hspan : Reader.span isDigit ⟨ch :: rest, p⟩ =
        .ok (ch :: rest, ⟨[], (ch :: rest).foldl Place.after p⟩) := by
      rw [Reader.span, List.takeWhile_eq_self_iff.2 hd, List.dropWhile_eq_nil_iff.2 hd]
    rw [Reader.wholeDigits, Reader.bind_of_ok Reader.peek_apply]
    exact ⟨_, by simpa [h₀, hd ch List.mem_cons_self] using hspan⟩

theorem Number.write_integer (n : Int) :
    (Number.integer n).write =
      if 0 ≤ n then Nat.toDigits 10 n.natAbs else '-' :: Nat.toDigits 10 n.natAbs := by
  rw [write, Int.toString_eq_repr, Int.repr_eq_if]
  split
  · next h => rw [Nat.toList_repr, ← Int.toNat_of_nonneg h, Int.natAbs_natCast, Int.toNat_natCast]
  · next h =>
    have hn : (-n).toNat = n.natAbs := by omega
    rw [String.toList_append, Nat.toList_repr, hn]
    rfl

theorem Reader.numeral_integer (n : Int) (atEnd : Malformed) (p : Place) :
    ∃ p', Reader.numeral atEnd ⟨(Number.integer n).write, p⟩ =
      .ok (⟨decide (n < 0), Nat.toDigits 10 n.natAbs, none, none⟩, ⟨[], p'⟩) := by
  have hunsigned : ∀ negative q, ∃ p', Reader.unsigned atEnd negative
      ⟨Nat.toDigits 10 n.natAbs, q⟩ =
        .ok (⟨negative, Nat.toDigits 10 n.natAbs, none, none⟩, ⟨[], p'⟩) := by
    intro negative q
    obtain ⟨p', hp'⟩ := Reader.wholeDigits_toDigits n.natAbs atEnd q
    exact ⟨p', Reader.bind_of_ok hp'⟩
  rw [Number.write_integer, Reader.numeral_eq, Reader.bind_of_ok Reader.peek_apply]
  by_cases hn : 0 ≤ n
  · have hminus : (Nat.toDigits 10 n.natAbs).head? ≠ some '-' := fun h ↦
      absurd (Numeral.isDigit_of_mem (List.mem_of_head? h)) (by decide)
    simpa [hn, hminus, Int.not_lt.2 hn] using hunsigned false p
  · simpa [hn, Int.lt_of_not_ge hn] using hunsigned true (p.after '-')

theorem Numeral.number?_integer {n : Int} (h : (Number.integer n).InRange) :
    Numeral.number? ⟨decide (n < 0), Nat.toDigits 10 n.natAbs, none, none⟩ = some (.integer n) := by
  have hlt := twoTo_63_lt_twoTo_64
  simp only [Number.InRange] at h
  have hd := Numeral.digitsValue_toDigits n.natAbs
  have ha := @Numeral.absorb_of_lt 0 (Nat.toDigits 10 n.natAbs) (by omega)
  rw [hd] at ha
  unfold Numeral.number?
  simp only [ha, decide_true, Option.isNone_none, Bool.and_true, Bool.true_and]
  by_cases hn : n < 0
  · have h₁ : 0 < n.natAbs ∧ n.natAbs ≤ twoTo 63 := by omega
    have h₂ : -(n.natAbs : Int) = n := by omega
    simp only [hn, h₁, h₂, decide_true, if_true, Bool.not_true, Bool.false_eq_true, if_false,
      Bool.and_self]
  · have h₂ : (n.natAbs : Int) = n := by omega
    simp [hn, h₂]

theorem Number.readsBack_integer {n : Int} (h : (Number.integer n).InRange) :
    (Number.integer n).ReadsBack := by
  rw [ReadsBack, Cursor.ofText, String.toList_ofList]
  obtain ⟨p', hp'⟩ := Reader.numeral_integer n .endInValue .start
  exact ⟨p', Reader.number_eq_ok.2 ⟨_, hp', Numeral.number?_integer h⟩⟩

end SuggestionReview.Json
