import SuggestionReview.Proofs.Json.Kinds
import SuggestionReview.Proofs.Json.Literal
import SuggestionReview.Proofs.Json.Numeral

namespace SuggestionReview.Json

open Reader

variable {d n : Nat} {w rest : List Char} {layout : Layout}

theorem skipBlank_append {blanks : List Char} (h : ∀ ch ∈ blanks, Cursor.isBlank ch = true)
    (w : List Char) (p : Place) :
    Cursor.skipBlank (blanks ++ w) p = Cursor.skipBlank w (blanks.foldl Place.after p) := by
  induction blanks generalizing p with
  | nil => rfl
  | cons ch blanks ih =>
    have hch := h ch List.mem_cons_self
    have hrest := fun c hc ↦ h c (List.mem_cons_of_mem ch hc)
    simpa [Cursor.skipBlank, hch] using ih hrest (p.after ch)

theorem isBlank_of_mem_gap {ch : Char} (h : ch ∈ layout.gap) : Cursor.isBlank ch = true := by
  cases layout with
  | compact => simp [Layout.gap] at h
  | indented level =>
    rcases List.mem_cons.1 h with rfl | h
    · rfl
    · rw [List.eq_of_mem_replicate h]
      rfl

theorem skipBlank_of_head (h : ∀ ch ∈ w.head?, Cursor.isBlank ch = false) (p : Place) :
    Cursor.skipBlank w p = ⟨w, p⟩ := by
  cases w with
  | nil => rfl
  | cons ch w => simp [Cursor.skipBlank, h ch rfl]

theorem skipBlank_gap (h : ∀ ch ∈ w.head?, Cursor.isBlank ch = false) (p : Place) :
    ∃ p', Cursor.skipBlank (layout.gap ++ w) p = ⟨w, p'⟩ := by
  rw [skipBlank_append (fun _ ↦ isBlank_of_mem_gap), skipBlank_of_head h]
  exact ⟨_, rfl⟩

def Value.ReadsBack (v : Value) : Prop := ∀ n ∈ v.numbers, n.ReadsBack

theorem isBlank_of_isDigit {ch : Char} (h : isDigit ch) : Cursor.isBlank ch = false := by
  refine Bool.eq_false_iff.2 fun hb ↦ ?_
  simp only [Cursor.isBlank, Bool.or_eq_true, decide_eq_true_eq] at hb
  rcases hb with ((rfl | rfl) | rfl) | rfl <;> exact absurd h (by decide)

theorem Value.ReadsBack.start {v : Value} (h : v.ReadsBack) (layout : Layout) :
    ∃ ch w, v.write layout = ch :: w ∧ Cursor.isBlank ch = false ∧ ch ≠ ']' := by
  match v with
  | .null => exact ⟨'n', _, by rw [Value.write], by decide⟩
  | .bool true => exact ⟨'t', _, by rw [Value.write], by decide⟩
  | .bool false => exact ⟨'f', _, by rw [Value.write], by decide⟩
  | .text s => exact ⟨'"', _, by rw [Value.write, writeText, List.cons_append], by decide⟩
  | .array [] => exact ⟨'[', _, by rw [Value.write], by decide⟩
  | .array (_ :: _) => exact ⟨'[', _, by rw [Value.write]; rfl, by decide⟩
  | .object [] => exact ⟨'\x7b', _, by rw [Value.write], by decide⟩
  | .object (_ :: _) => exact ⟨'\x7b', _, by rw [Value.write]; rfl, by decide⟩
  | .number n =>
    obtain ⟨ch, hch, hd⟩ := (h n (by simp [Value.numbers])).start
    obtain ⟨w, hw⟩ := List.head?_eq_some_iff.1 hch
    refine ⟨ch, w, by rw [Value.write, hw], ?_⟩
    rcases hd with rfl | hd
    · decide
    · refine ⟨isBlank_of_isDigit hd, ?_⟩
      rintro rfl
      exact absurd hd (by decide)

/-- Reading gives the value back, in whatever layout it was written and whatever follows. -/
def Restored (d : Nat) (v : Value) : Prop :=
  ∀ layout rest, Separated rest → ∀ p,
    ∃ p', verbatim d ⟨v.write layout ++ rest, p⟩ = .ok (v, ⟨rest, p'⟩)

theorem separated_cons {ch : Char} (h : continuesNumber ch = false) : Separated (ch :: rest) := by
  intro c hc
  obtain rfl : ch = c := by simpa using hc
  exact h

theorem separated_gap (h : Separated w) : Separated (layout.gap ++ w) := by
  cases layout with
  | compact => exact h
  | indented level => exact separated_cons (by decide)

theorem verbatim_gap {v : Value} (hres : Restored d v) (hback : v.ReadsBack)
    (hrest : Separated rest) (inside : Layout) (p : Place) :
    ∃ q p', Cursor.skipBlank (layout.gap ++ (v.write inside ++ rest)) p =
        ⟨v.write inside ++ rest, q⟩ ∧
      verbatim d ⟨v.write inside ++ rest, q⟩ = .ok (v, ⟨rest, p'⟩) := by
  obtain ⟨ch, w, hw, hb, -⟩ := hback.start inside
  obtain ⟨q, hq⟩ := @skipBlank_gap (v.write inside ++ rest) layout (by simp [hw, hb]) p
  obtain ⟨p', hp'⟩ := hres inside rest hrest q
  exact ⟨q, p', hq, hp'⟩

theorem separated_writeItems (xs : List Value) :
    Separated (writeItems layout xs ++ rest) := by
  cases xs with
  | nil =>
    rw [writeItems, List.append_assoc]
    exact separated_gap (separated_cons (by decide))
  | cons x xs =>
    rw [writeItems]
    exact separated_cons (by decide)

theorem length_lt_writeItems (xs : List Value) :
    xs.length < (writeItems layout xs).length := by
  induction xs with
  | nil => simp [writeItems]
  | cons x xs ih =>
    rw [writeItems]
    simp only [List.length_append, List.length_cons]
    omega

theorem nextItem_first {c c₁ : Cursor} {ch : Char} (h : Cursor.skipBlank c.rest c.place = c₁)
    (hc : c₁.rest.head? = some ch) (hch : ch ≠ ']') : nextItem true c = .ok (true, c₁) := by
  rw [nextItem, bind_of_ok token_apply, h, hc]
  simp

theorem nextItem_comma {p : Place} {c₁ : Cursor} {ch : Char}
    (h : Cursor.skipBlank w (p.after ',') = c₁) (hc : c₁.rest.head? = some ch) (hch : ch ≠ ']') :
    nextItem false ⟨',' :: w, p⟩ = .ok (true, c₁) := by
  have hcomma : Cursor.skipBlank (',' :: w) p = ⟨',' :: w, p⟩ := rfl
  simp [nextItem, hcomma, h, hc]

theorem itemsFrom_end (first : Bool) (p : Place) :
    ∃ p', itemsFrom (verbatim d) (n + 1) first ⟨layout.gap ++ ']' :: rest, p⟩ =
      .ok ([], ⟨']' :: rest, p'⟩) := by
  obtain ⟨p', hp'⟩ := @skipBlank_gap (']' :: rest) layout (by simp [Cursor.isBlank]) p
  exact ⟨p', by simp [itemsFrom, nextItem, hp']⟩

theorem itemsFrom_more {first : Bool} {c c₁ c₂ c₃ : Cursor} {v : Value} {vs : List Value}
    (hn : nextItem first c = .ok (true, c₁)) (hv : verbatim d c₁ = .ok (v, c₂))
    (hvs : itemsFrom (verbatim d) n false c₂ = .ok (vs, c₃)) :
    itemsFrom (verbatim d) (n + 1) first c = .ok (v :: vs, c₃) := by
  rw [itemsFrom, bind_of_ok hn, if_pos rfl, bind_of_ok hv, bind_of_ok hvs]
  rfl

theorem itemsFrom_writeItems (xs : List Value) (hx : ∀ x ∈ xs, Restored d x ∧ x.ReadsBack)
    (hn : xs.length < n) (p : Place) :
    ∃ p', itemsFrom (verbatim d) n false ⟨writeItems layout xs ++ rest, p⟩ =
      .ok (xs, ⟨']' :: rest, p'⟩) := by
  induction xs generalizing n p with
  | nil =>
    obtain ⟨m, rfl⟩ := Nat.exists_eq_succ_of_ne_zero (Nat.ne_of_gt hn)
    rw [writeItems, List.append_assoc]
    exact itemsFrom_end false p
  | cons x xs ih =>
    obtain ⟨m, rfl⟩ := Nat.exists_eq_succ_of_ne_zero (Nat.ne_zero_of_lt hn)
    obtain ⟨hres, hback⟩ := hx x List.mem_cons_self
    have htail : Separated (writeItems layout xs ++ rest) := separated_writeItems xs
    obtain ⟨q, p₁, hq, hp₁⟩ :=
      @verbatim_gap d _ layout.inner x hres hback htail layout.inner (p.after ',')
    obtain ⟨p', hp'⟩ := ih (fun y hy ↦ hx y (List.mem_cons_of_mem x hy))
      (Nat.lt_of_succ_lt_succ hn) p₁
    obtain ⟨ch, w, hw, -, hclose⟩ := hback.start layout.inner
    refine ⟨p', itemsFrom_more ?_ hp₁ hp'⟩
    rw [writeItems]
    simp only [List.append_assoc, List.cons_append]
    exact nextItem_comma hq (by rw [hw]; rfl) hclose

theorem restored_array {items : List Value}
    (h : ∀ x ∈ items, Restored d x ∧ x.ReadsBack) : Restored (d + 1) (.array items) := by
  intro layout rest hrest p
  have hstart : ∀ w, valueStart ⟨'[' :: w, p⟩ = .ok ('[', ⟨'[' :: w, p⟩) := fun w ↦
    valueStart_eq_ok.2 ⟨rfl, rfl⟩
  have hclose : ∀ q, closeList ⟨']' :: rest, q⟩ = (.ok (), ⟨rest, q.after ']'⟩) := fun q ↦
    closeList_eq_ok.2 ⟨rfl, rfl⟩
  simp only [verbatim_array, listOf_eq_ok]
  cases items with
  | nil =>
    rw [Value.write]
    obtain ⟨q, hq⟩ := @itemsFrom_end d (rest.length + 1) rest .compact true (p.after '[')
    exact ⟨_, _, d, _, hstart _, rfl, hq, hclose q⟩
  | cons x xs =>
    obtain ⟨hres, hback⟩ := h x List.mem_cons_self
    have htail : Separated (writeItems layout xs ++ rest) := separated_writeItems xs
    obtain ⟨q, p₁, hq, hp₁⟩ :=
      @verbatim_gap d _ layout.inner x hres hback htail layout.inner (p.after '[')
    have hlen : xs.length < (layout.inner.gap ++ (x.write layout.inner ++
        (writeItems layout xs ++ rest))).length := by
      have := @length_lt_writeItems layout xs
      simp only [List.length_append]
      omega
    obtain ⟨p', hp'⟩ := itemsFrom_writeItems xs (fun y hy ↦ h y (List.mem_cons_of_mem x hy)) hlen p₁
    obtain ⟨ch, w, hw, -, hne⟩ := hback.start layout.inner
    rw [Value.write]
    simp only [List.append_assoc, List.cons_append]
    have hnext := nextItem_first (c := ⟨_, p.after '['⟩) hq (by rw [hw]; rfl) hne
    exact ⟨_, _, d, _, hstart _, rfl, itemsFrom_more hnext hp₁ hp', hclose p'⟩

theorem separated_writeMembers (ms : List (String × Value)) :
    Separated (writeMembers layout ms ++ rest) := by
  cases ms with
  | nil =>
    rw [writeMembers, List.append_assoc]
    exact separated_gap (separated_cons (by decide))
  | cons m ms =>
    rw [writeMembers]
    exact separated_cons (by decide)

theorem length_lt_writeMembers (ms : List (String × Value)) :
    ms.length < (writeMembers layout ms).length := by
  induction ms with
  | nil => simp [writeMembers]
  | cons m ms ih =>
    rw [writeMembers]
    simp only [List.length_append, List.length_cons]
    omega

theorem pairsFrom_end (first : Bool) (p : Place) :
    ∃ p', pairsFrom d (n + 1) first ⟨layout.gap ++ '\x7d' :: rest, p⟩ =
      .ok ([], ⟨'\x7d' :: rest, p'⟩) := by
  obtain ⟨p', hp'⟩ := @skipBlank_gap ('\x7d' :: rest) layout (by simp [Cursor.isBlank]) p
  exact ⟨p', by rw [pairsFrom, bind_of_ok (nextKey_none.2 ⟨hp', rfl⟩)]; rfl⟩

theorem pairsFrom_more {first : Bool} {c c₁ c₂ c₃ : Cursor} {key : String} {v : Value}
    {ms : List (String × Value)} (hk : nextKey first c = .ok (some key, c₁))
    (hv : memberValue d c₁ = .ok (v, c₂)) (hms : pairsFrom d n false c₂ = .ok (ms, c₃)) :
    pairsFrom d (n + 1) first c = .ok ((key, v) :: ms, c₃) := by
  rw [pairsFrom, bind_of_ok hk]
  dsimp only
  rw [bind_of_ok hv, bind_of_ok hms]
  rfl

theorem valueStart_of_head {c c₁ : Cursor} {ch : Char} (h : Cursor.skipBlank c.rest c.place = c₁)
    (hc : c₁.rest.head? = some ch) : valueStart c = .ok (ch, c₁) :=
  valueStart_eq_ok.2 ⟨h, hc⟩

theorem text_writeText (s : String) (p : Place) :
    ∃ p', text ⟨layout.gap ++ (writeText s ++ w), p⟩ = .ok (s, ⟨w, p'⟩) := by
  obtain ⟨q, hq⟩ := @skipBlank_gap (writeText s ++ w) layout (by simp [writeText, Cursor.isBlank]) p
  obtain ⟨p', hp'⟩ := @literal_writeText w s (q.after '"')
  refine ⟨p', text_eq_ok.2 ⟨_, valueStart_of_head hq rfl, ?_⟩⟩
  simpa [writeText] using hp'

theorem nextKey_comma {key : String} {p : Place} {c' : Cursor}
    (h : text ⟨w, p.after ','⟩ = .ok (key, c')) :
    nextKey false ⟨',' :: w, p⟩ = .ok (some key, c') := by
  have hcomma : Cursor.skipBlank (',' :: w) p = ⟨',' :: w, p⟩ := rfl
  obtain ⟨c₁, hs, hl⟩ := text_eq_ok.1 h
  obtain ⟨rfl, hq⟩ := valueStart_eq_ok.1 hs
  simp [nextKey, hcomma, hq, map_eq_ok, hl]

theorem memberValue_write {v : Value} (hres : Restored d v) (hrest : Separated rest)
    (inside : Layout) (p : Place) :
    ∃ p', memberValue d ⟨layout.colon ++ (v.write inside ++ rest), p⟩ = .ok (v, ⟨rest, p'⟩) := by
  cases layout with
  | compact => exact hres inside rest hrest (p.after ':')
  | indented level =>
    obtain ⟨p', hp'⟩ := hres inside rest hrest ((p.after ':').after ' ')
    refine ⟨p', ?_⟩
    rw [← verbatim_skipBlank] at hp'
    exact verbatim_skipBlank.symm.trans hp'

theorem pairsFrom_writeMembers (ms : List (String × Value)) (hm : ∀ m ∈ ms, Restored d m.2)
    (hn : ms.length < n) (p : Place) :
    ∃ p', pairsFrom d n false ⟨writeMembers layout ms ++ rest, p⟩ =
      .ok (ms, ⟨'\x7d' :: rest, p'⟩) := by
  induction ms generalizing n p with
  | nil =>
    obtain ⟨m, rfl⟩ := Nat.exists_eq_succ_of_ne_zero (Nat.ne_of_gt hn)
    rw [writeMembers, List.append_assoc]
    exact pairsFrom_end false p
  | cons m ms ih =>
    obtain ⟨n, rfl⟩ := Nat.exists_eq_succ_of_ne_zero (Nat.ne_zero_of_lt hn)
    obtain ⟨key, v⟩ := m
    have htail : Separated (writeMembers layout ms ++ rest) := separated_writeMembers ms
    obtain ⟨p₁, hk⟩ := @text_writeText (layout.colon ++ (v.write layout.inner ++
      (writeMembers layout ms ++ rest))) layout.inner key (p.after ',')
    obtain ⟨p₂, hv⟩ := @memberValue_write d _ layout v (hm _ List.mem_cons_self) htail layout.inner p₁
    obtain ⟨p', hms⟩ := ih (fun m hm' ↦ hm m (List.mem_cons_of_mem _ hm'))
      (Nat.lt_of_succ_lt_succ hn) p₂
    refine ⟨p', ?_⟩
    rw [writeMembers]
    simp only [List.append_assoc, List.cons_append]
    exact pairsFrom_more (nextKey_comma hk) hv hms

theorem restored_object {ms : List (String × Value)} (h : ∀ m ∈ ms, Restored d m.2) :
    Restored (d + 1) (.object ms) := by
  intro layout rest hrest p
  have hstart : ∀ w, valueStart ⟨'\x7b' :: w, p⟩ = .ok ('\x7b', ⟨'\x7b' :: w, p⟩) := fun w ↦
    valueStart_eq_ok.2 ⟨rfl, rfl⟩
  have hclose : ∀ q, closeObject ⟨'\x7d' :: rest, q⟩ = (.ok (), ⟨rest, q.after '\x7d'⟩) := fun q ↦
    closeObject_eq_ok.2 ⟨rfl, rfl⟩
  simp only [verbatim_object_eq_ok]
  cases ms with
  | nil =>
    rw [Value.write]
    obtain ⟨q, hq⟩ := @pairsFrom_end d (rest.length + 1) rest .compact true (p.after '\x7b')
    exact ⟨_, _, d, _, hstart _, rfl, hq, hclose q⟩
  | cons m ms =>
    obtain ⟨key, v⟩ := m
    have htail : Separated (writeMembers layout ms ++ rest) := separated_writeMembers ms
    obtain ⟨p₁, hk⟩ := @text_writeText (layout.colon ++ (v.write layout.inner ++
      (writeMembers layout ms ++ rest))) layout.inner key (p.after '\x7b')
    obtain ⟨p₂, hv⟩ := @memberValue_write d _ layout v (h _ List.mem_cons_self) htail layout.inner p₁
    have hlen : ms.length < (layout.inner.gap ++ (writeText key ++ (layout.colon ++
        (v.write layout.inner ++ (writeMembers layout ms ++ rest))))).length := by
      have := @length_lt_writeMembers layout ms
      simp only [List.length_append]
      omega
    obtain ⟨p', hms⟩ := pairsFrom_writeMembers ms
      (fun m hm ↦ h m (List.mem_cons_of_mem _ hm)) hlen p₂
    rw [Value.write]
    simp only [List.append_assoc, List.cons_append]
    exact ⟨_, _, d, _, hstart _, rfl, pairsFrom_more (nextKey_first.2 hk) hv hms, hclose p'⟩

theorem restored_number {x : Number} (h : x.ReadsBack) : Restored d (.number x) := by
  intro layout rest hrest p
  obtain ⟨ch, hch, hd⟩ := h.start
  obtain ⟨w, hw⟩ := List.head?_eq_some_iff.1 hch
  obtain ⟨p', hp'⟩ := h.number hrest p
  have hblank : Cursor.isBlank ch = false := by
    rcases hd with rfl | hd
    · decide
    · exact isBlank_of_isDigit hd
  refine ⟨p', ?_⟩
  rw [Value.write, verbatim_eq_ok]
  refine ⟨ch, ⟨x.write ++ rest, p⟩, ?_, verbatimFrom_eq_ok.2 ⟨by simpa using hd, hp'⟩⟩
  exact valueStart_of_head (skipBlank_of_head (by simp [hw, hblank]) p) (by rw [hw]; rfl)

theorem restored_text (s : String) : Restored d (.text s) := by
  intro layout rest _ p
  simp only [verbatim_text, Value.write]
  exact @text_writeText rest .compact s p

theorem restored_null : Restored d .null := fun layout rest _ p ↦ by
  rw [Value.write]
  exact ⟨_, verbatim_eq_ok.2 ⟨'n', _, valueStart_eq_ok.2 ⟨rfl, rfl⟩,
    verbatimFrom_eq_ok.2 ⟨rfl, rfl⟩⟩⟩

theorem restored_bool (b : Bool) : Restored d (.bool b) := fun layout rest _ p ↦ by
  cases b <;> rw [Value.write]
  · exact ⟨_, verbatim_eq_ok.2 ⟨'f', _, valueStart_eq_ok.2 ⟨rfl, rfl⟩,
      verbatimFrom_eq_ok.2 ⟨rfl, rfl⟩⟩⟩
  · exact ⟨_, verbatim_eq_ok.2 ⟨'t', _, valueStart_eq_ok.2 ⟨rfl, rfl⟩,
      verbatimFrom_eq_ok.2 ⟨rfl, rfl⟩⟩⟩

/-- What is written for a document is read as that document. -/
theorem restored {v : Value} (hd : v.nesting ≤ d) (hn : v.ReadsBack) : Restored d v := by
  induction v generalizing d with
  | null => exact restored_null
  | bool b => exact restored_bool b
  | number x => exact restored_number (hn x (by simp [Value.numbers]))
  | text s => exact restored_text s
  | array items ih =>
    cases d with
    | zero => simp [Value.nesting] at hd
    | succ d =>
      rw [nesting_array_le] at hd
      have hback : ∀ x ∈ items, x.ReadsBack := fun x hx y hy ↦ hn y (mem_numbers_array.2 ⟨x, hx, hy⟩)
      exact restored_array fun x hx ↦ ⟨ih x hx (hd x hx) (hback x hx), hback x hx⟩
  | object ms ih =>
    cases d with
    | zero => simp [Value.nesting] at hd
    | succ d =>
      rw [nesting_object_le] at hd
      exact restored_object fun m hm ↦
        ih m hm (hd m hm) fun y hy ↦ hn y (mem_numbers_object.2 ⟨m, hm, hy⟩)

theorem document_write {v : Value} (hd : v.nesting ≤ maxDepth) (hn : v.ReadsBack)
    (layout : Layout) : document (String.ofList (v.write layout)) = .ok v := by
  obtain ⟨p', hp'⟩ := restored hd hn layout [] (by simp [Separated]) .start
  rw [List.append_nil] at hp'
  exact run_eq_ok.2 ⟨⟨[], p'⟩, by rwa [Cursor.ofText, String.toList_ofList], rfl⟩

theorem document_compact {v : Value} (hd : v.nesting ≤ maxDepth) (hn : v.numbers = []) :
    document v.compact = .ok v :=
  document_write hd (fun _ hx ↦ absurd (hn ▸ hx) List.not_mem_nil) .compact

/-- A document that is read nests no deeper than allowed, and its whole numbers can be read. -/
theorem bounds_of_verbatim {v : Value} {c c' : Cursor} (h : verbatim d c = .ok (v, c')) :
    v.nesting ≤ d ∧ ∀ x ∈ v.numbers, x.InRange := by
  induction v generalizing d c c' with
  | null => exact ⟨Nat.zero_le d, by simp [Value.numbers]⟩
  | bool b => exact ⟨Nat.zero_le d, by simp [Value.numbers]⟩
  | text s => exact ⟨Nat.zero_le d, by simp [Value.numbers]⟩
  | number x =>
    obtain ⟨ch, c₁, -, hx⟩ := verbatim_eq_ok.1 h
    refine ⟨Nat.zero_le d, ?_⟩
    simpa [Value.numbers] using inRange_of_number (verbatimFrom_eq_ok.1 hx).2
  | array items ih =>
    obtain ⟨c₁, d', c₂, -, rfl, hi, -⟩ := listOf_eq_ok.1 (verbatim_array.1 h)
    have hitem : ∀ x ∈ items, x.nesting ≤ d' ∧ ∀ y ∈ x.numbers, y.InRange := by
      intro x hx
      obtain ⟨c₃, c₄, hv⟩ := itemsFrom_mem hi hx
      exact ih x hx hv
    refine ⟨nesting_array_le.2 fun x hx ↦ (hitem x hx).1, fun y hy ↦ ?_⟩
    obtain ⟨x, hx, hy⟩ := mem_numbers_array.1 hy
    exact (hitem x hx).2 y hy
  | object ms ih =>
    obtain ⟨c₁, d', c₂, -, rfl, hm, -⟩ := verbatim_object_eq_ok.1 h
    have hmember : ∀ m ∈ ms, m.2.nesting ≤ d' ∧ ∀ y ∈ m.2.numbers, y.InRange := by
      intro m hmem
      obtain ⟨c₃, c₄, hv⟩ := pairsFrom_mem hm hmem
      exact ih m hmem hv
    refine ⟨nesting_object_le.2 fun m hm ↦ (hmember m hm).1, fun y hy ↦ ?_⟩
    obtain ⟨m, hm, hy⟩ := mem_numbers_object.1 hy
    exact (hmember m hm).2 y hy

theorem bounds_of_document {v : Value} {s : String} (h : document s = .ok v) :
    v.nesting ≤ maxDepth ∧ ∀ x ∈ v.numbers, x.InRange := by
  obtain ⟨c, hv, -⟩ := run_eq_ok.1 h
  exact bounds_of_verbatim hv

/-- Every number that is not whole reads back from what is written for it. -/
def Value.RealsReadBack (v : Value) : Prop :=
  ∀ x, .real x ∈ v.numbers → (Number.real x).ReadsBack

instance (v : Value) : Decidable v.RealsReadBack :=
  decidable_of_iff (v.numbers.all fun n ↦ match n with
    | .integer _ => true
    | .real x => (Number.real x).ReadsBack) <| by
    rw [List.all_eq_true]
    refine ⟨fun h x hx ↦ by simpa using h _ hx, fun h n hn ↦ ?_⟩
    cases n with
    | integer i => rfl
    | real x => simpa using h x hn

theorem Value.RealsReadBack.readsBack {v : Value} (h : v.RealsReadBack)
    (hr : ∀ x ∈ v.numbers, x.InRange) : v.ReadsBack := fun x hx ↦
  match x with
  | .integer _ => Number.readsBack_integer (hr _ hx)
  | .real y => h y hx

end SuggestionReview.Json
