import SuggestionReview.Proofs.Json.Numeral
import SuggestionReview.Proofs.Json.Value

namespace SuggestionReview

namespace Decimal

theorem shown_of_all (cs : List Char) (h : cs.all (32 ≤ ·.toNat) = true) :
    ∀ ch ∈ cs, 32 ≤ ch.toNat :=
  fun ch hch ↦ of_decide_eq_true (List.all_eq_true.1 h ch hch)

theorem shown_of_digits {n : Nat} {ch : Char} (h : ch ∈ Nat.toDigits 10 n) : 32 ≤ ch.toNat := by
  have hd : ch.isDigit = true := Json.Numeral.isDigit_of_mem h
  simp only [Char.isDigit, Bool.and_eq_true, decide_eq_true_eq] at hd
  exact Nat.le_trans (by decide) (UInt32.le_iff_toNat_le.1 hd.1)

theorem shown_of_zeros {n : Nat} {ch : Char} (h : ch ∈ List.replicate n '0') : 32 ≤ ch.toNat := by
  rw [List.eq_of_mem_replicate h]
  decide

theorem Scientific.shown_positional (d : Scientific) (pointZero : Bool) :
    ∀ ch ∈ (d.positional pointZero).toList, 32 ≤ ch.toNat := by
  intro ch h
  have hpoint : 32 ≤ '.'.toNat := by decide
  have hzero : 32 ≤ '0'.toNat := by decide
  simp only [positional, String.toList_ofList] at h
  split at h
  · rcases List.mem_append.1 h with h | h
    · rcases List.mem_append.1 h with h | h
      · exact shown_of_digits h
      · exact shown_of_zeros h
    · cases pointZero
      · simp at h
      · simp only [if_true, List.mem_cons, List.not_mem_nil, or_false] at h
        rcases h with rfl | rfl
        · exact hpoint
        · exact hzero
  · split at h
    · rcases List.mem_append.1 h with h | h
      · exact shown_of_digits (List.mem_of_mem_take h)
      · rcases List.mem_cons.1 h with rfl | h
        · exact hpoint
        · exact shown_of_digits (List.mem_of_mem_drop h)
    · simp only [List.cons_append, List.nil_append, List.mem_cons, List.mem_append] at h
      rcases h with rfl | rfl | h | h
      · exact hzero
      · exact hpoint
      · exact shown_of_zeros h
      · exact shown_of_digits h

theorem Scientific.shown_powered (d : Scientific) :
    ∀ ch ∈ d.powered.toList, 32 ≤ ch.toNat := by
  intro ch h
  have hdigits := fun c ↦ @shown_of_digits d.digits c
  simp only [powered, String.toList_append, String.toList_ofList, List.mem_append] at h
  rcases h with ((h | h) | h) | h
  · split at h
    · simp at h
    · next hd => exact hdigits ch (hd ▸ h)
    · next hd =>
      rw [hd] at hdigits
      rcases List.mem_cons.1 h with rfl | h
      · exact hdigits ch List.mem_cons_self
      · rcases List.mem_cons.1 h with rfl | h
        · decide
        · exact hdigits ch (List.mem_cons_of_mem _ h)
  · obtain rfl : ch = 'e' := by simpa using h
    decide
  · split at h
    · obtain rfl : ch = '+' := by simpa using h
      decide
    · obtain rfl : ch = '-' := by simpa using h
      decide
  · exact shown_of_digits (by simpa [Nat.toString_eq_repr, Nat.toList_repr] using h)

theorem shown_document (x : Float) : ∀ ch ∈ (document.write x).toList, 32 ≤ ch.toNat := by
  have hnull := shown_of_all ['n', 'u', 'l', 'l'] rfl
  have hsign : ∀ ch ∈ (if x.toBits.toNat / twoTo 63 = 1 then "-" else "").toList,
      32 ≤ ch.toNat := by
    split
    · exact List.forall_mem_singleton.2 (by decide)
    · exact List.forall_mem_nil _
  by_cases hnan : x.isNaN
  · rw [Form.write, if_pos hnan]
    exact hnull
  · by_cases hinf : x.isInf
    · rw [Form.write, if_neg hnan, if_pos hinf, if_pos (by rfl)]
      exact hnull
    · intro ch h
      rw [Form.write, if_neg hnan, if_neg hinf, String.toList_append, List.mem_append] at h
      rcases h with h | h
      · exact hsign ch h
      · split at h
        · exact Scientific.shown_positional _ _ ch h
        · exact Scientific.shown_powered _ ch h

end Decimal

namespace Json

def Printed (ch : Char) : Prop := ch = '\n' ∨ 32 ≤ ch.toNat

instance (ch : Char) : Decidable (Printed ch) :=
  inferInstanceAs (Decidable (ch = '\n' ∨ 32 ≤ ch.toNat))

theorem printed_of_shown (cs : List Char) (h : cs.all (32 ≤ ·.toNat) = true) :
    ∀ ch ∈ cs, Printed ch :=
  fun ch hch ↦ .inr (Decimal.shown_of_all cs h ch hch)

theorem Number.printed_write (n : Number) : ∀ ch ∈ n.write, Printed ch := by
  intro ch h
  cases n with
  | integer n =>
    rw [write_integer] at h
    split at h
    · exact .inr (Decimal.shown_of_digits h)
    · rcases List.mem_cons.1 h with rfl | h
      · exact .inr (by decide)
      · exact .inr (Decimal.shown_of_digits h)
  | real x => exact .inr (Decimal.shown_document x ch h)

theorem printed_digitChar {n : Nat} (h : n < 16) : Printed n.digitChar := by
  have hall : ∀ k : Fin 16, 32 ≤ k.val.digitChar.toNat := by decide
  exact .inr (hall ⟨n, h⟩)

theorem printed_escaped (c : Char) : ∀ ch ∈ escaped c, Printed ch := by
  unfold escaped
  split
  · exact printed_of_shown _ rfl
  · exact printed_of_shown _ rfl
  · exact printed_of_shown _ rfl
  · exact printed_of_shown _ rfl
  · exact printed_of_shown _ rfl
  · split
    · exact printed_of_shown _ rfl
    · split
      · exact printed_of_shown _ rfl
      · split
        · next h =>
          intro ch hch
          have hfour := printed_of_shown ['\\', 'u', '0', '0'] rfl
          rcases List.mem_append.1 (show ch ∈ ['\\', 'u', '0', '0'] ++
            [(c.toNat / 16).digitChar, (c.toNat % 16).digitChar] from hch) with hch | hch
          · exact hfour ch hch
          · simp only [List.mem_cons, List.not_mem_nil, or_false] at hch
            rcases hch with rfl | rfl
            · exact printed_digitChar (by omega)
            · exact printed_digitChar (by omega)
        · next h =>
          intro ch hch
          obtain rfl := List.mem_singleton.1 hch
          exact .inr (Nat.le_of_not_lt h)

theorem printed_writeText (s : String) : ∀ ch ∈ writeText s, Printed ch := by
  have hquote : Printed '"' := .inr (by decide)
  refine List.forall_mem_cons.2 ⟨hquote, List.forall_mem_append.2 ⟨fun ch h ↦ ?_,
    List.forall_mem_singleton.2 hquote⟩⟩
  obtain ⟨c, -, h⟩ := List.mem_flatMap.1 h
  exact printed_escaped c ch h

theorem Layout.printed_gap (layout : Layout) : ∀ ch ∈ layout.gap, Printed ch := by
  cases layout with
  | compact => exact List.forall_mem_nil _
  | indented level =>
    refine List.forall_mem_cons.2 ⟨.inl rfl, fun ch h ↦ ?_⟩
    rw [List.eq_of_mem_replicate h]
    exact .inr (by decide)

theorem Layout.printed_colon (layout : Layout) : ∀ ch ∈ layout.colon, Printed ch := by
  cases layout with
  | compact => exact List.forall_mem_singleton.2 (.inr (by decide))
  | indented => exact List.forall_mem_cons.2 ⟨.inr (by decide),
      List.forall_mem_singleton.2 (.inr (by decide))⟩

theorem printed_writeItems {items : List Value}
    (h : ∀ v ∈ items, ∀ layout, ∀ ch ∈ v.write layout, Printed ch) (layout : Layout) :
    ∀ ch ∈ writeItems layout items, Printed ch := by
  induction items with
  | nil =>
    exact List.forall_mem_append.2 ⟨layout.printed_gap,
      List.forall_mem_singleton.2 (.inr (by decide))⟩
  | cons v items ih =>
    have ⟨hv, hitems⟩ := List.forall_mem_cons.1 h
    simp only [writeItems, List.cons_append, List.append_assoc, List.forall_mem_cons,
      List.forall_mem_append]
    exact ⟨.inr (by decide), layout.inner.printed_gap, hv _, ih hitems⟩

theorem printed_writeMembers {members : List (String × Value)}
    (h : ∀ m ∈ members, ∀ layout, ∀ ch ∈ m.2.write layout, Printed ch) (layout : Layout) :
    ∀ ch ∈ writeMembers layout members, Printed ch := by
  induction members with
  | nil =>
    exact List.forall_mem_append.2 ⟨layout.printed_gap,
      List.forall_mem_singleton.2 (.inr (by decide))⟩
  | cons m members ih =>
    have ⟨hm, hmembers⟩ := List.forall_mem_cons.1 h
    simp only [writeMembers, List.cons_append, List.append_assoc, List.forall_mem_cons,
      List.forall_mem_append]
    exact ⟨.inr (by decide), layout.inner.printed_gap, printed_writeText _, layout.printed_colon,
      hm _, ih hmembers⟩

theorem Value.printed_write (v : Value) (layout : Layout) : ∀ ch ∈ v.write layout, Printed ch := by
  induction v generalizing layout with
  | null => exact printed_of_shown ['n', 'u', 'l', 'l'] rfl
  | bool b =>
    cases b with
    | true => exact printed_of_shown ['t', 'r', 'u', 'e'] rfl
    | false => exact printed_of_shown ['f', 'a', 'l', 's', 'e'] rfl
  | number n => exact n.printed_write
  | text s => exact printed_writeText s
  | array items ih =>
    cases items with
    | nil => exact printed_of_shown ['[', ']'] rfl
    | cons v items =>
      have ⟨hv, hitems⟩ := List.forall_mem_cons.1 ih
      simp only [Value.write, List.cons_append, List.append_assoc, List.forall_mem_cons,
        List.forall_mem_append]
      exact ⟨.inr (by decide), layout.inner.printed_gap, hv _, printed_writeItems hitems layout⟩
  | object members ih =>
    cases members with
    | nil => exact printed_of_shown ['\x7b', '\x7d'] rfl
    | cons m members =>
      have ⟨hm, hmembers⟩ := List.forall_mem_cons.1 ih
      simp only [Value.write, List.cons_append, List.append_assoc, List.forall_mem_cons,
        List.forall_mem_append]
      exact ⟨.inr (by decide), layout.inner.printed_gap, printed_writeText _,
        layout.printed_colon, hm _, printed_writeMembers hmembers layout⟩

theorem writeMembers_eq_concat (layout : Layout) (members : List (String × Value)) :
    ∃ front, writeMembers layout members = front ++ ['\x7d'] := by
  induction members with
  | nil => exact ⟨layout.gap, rfl⟩
  | cons m members ih =>
    obtain ⟨front, hfront⟩ := ih
    exact ⟨_, by rw [writeMembers, hfront, ← List.append_assoc]⟩

theorem write_object_eq_concat (layout : Layout) (members : List (String × Value)) :
    ∃ front, (Value.object members).write layout = front ++ ['\x7d'] := by
  cases members with
  | nil => exact ⟨['\x7b'], rfl⟩
  | cons m members =>
    obtain ⟨front, hfront⟩ := writeMembers_eq_concat layout members
    exact ⟨_, by rw [Value.write, hfront, ← List.append_assoc]⟩

end Json

end SuggestionReview
