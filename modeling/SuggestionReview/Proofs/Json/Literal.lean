import SuggestionReview.Json.Reader
import SuggestionReview.Json.Value
import SuggestionReview.Proofs.Json.Success

namespace SuggestionReview.Json.Reader

variable {w : List Char}

theorem hexDigit?_digitChar {n : Nat} (h : n < 16) : hexDigit? n.digitChar = some n := by
  have hall : ∀ k : Fin 16, hexDigit? k.val.digitChar = some k.val := by decide
  exact hall ⟨n, h⟩

theorem utf8Size_digitChar {n : Nat} (h : n < 16) : n.digitChar.utf8Size = 1 := by
  have hall : ∀ k : Fin 16, k.val.digitChar.utf8Size = 1 := by decide
  exact hall ⟨n, h⟩

theorem hexFour_digitChar {a b : Nat} (ha : a < 16) (hb : b < 16) (p : Place) :
    ∃ p', hexFour ⟨'0' :: '0' :: a.digitChar :: b.digitChar :: w, p⟩ =
      .ok (16 * a + b, ⟨w, p'⟩) := by
  have h₀ : '0'.utf8Size = 1 := by decide
  have hx : hexDigit? '0' = some 0 := by decide
  simp [hexFour, Place.afterBytes, h₀, hx, utf8Size_digitChar ha, utf8Size_digitChar hb,
    hexDigit?_digitChar ha, hexDigit?_digitChar hb]

theorem unicodeEscape_control {n : Nat} (h : n < 32) (p : Place) :
    ∃ p', unicodeEscape ⟨'0' :: '0' :: (n / 16).digitChar :: (n % 16).digitChar :: w, p⟩ =
      .ok (Char.ofNat n, ⟨w, p'⟩) := by
  obtain ⟨p', hp'⟩ := @hexFour_digitChar w (n / 16) (n % 16) (by omega) (by omega) p
  have hn : 16 * (n / 16) + n % 16 = n := by omega
  have hlead : isLeadSurrogate n = false := by simp [isLeadSurrogate]; omega
  have htrail : isTrailSurrogate n = false := by simp [isTrailSurrogate]; omega
  rw [hn] at hp'
  refine ⟨p', ?_⟩
  rw [unicodeEscape, bind_of_ok hp']
  simp [hlead, htrail]

theorem literalStep_escaped (read : List Char) (ch : Char) (p : Place) :
    ∃ p', literalStep read ⟨escaped ch ++ w, p⟩ = .ok (.inl (ch :: read), ⟨w, p'⟩) := by
  unfold escaped
  split
  · exact ⟨_, rfl⟩
  · exact ⟨_, rfl⟩
  · exact ⟨_, rfl⟩
  · exact ⟨_, rfl⟩
  · exact ⟨_, rfl⟩
  · split
    · next h =>
      obtain rfl : Char.ofNat 8 = ch := by rw [← h, Char.ofNat_toNat]
      exact ⟨_, rfl⟩
    · split
      · next h =>
        obtain rfl : Char.ofNat 12 = ch := by rw [← h, Char.ofNat_toNat]
        exact ⟨_, rfl⟩
      · split
        · next h =>
          obtain ⟨p', hp'⟩ := @unicodeEscape_control w ch.toNat h (((p.after '\\').after 'u'))
          rw [Char.ofNat_toNat] at hp'
          exact ⟨p', by simp [literalStep, escapeSequence, map_eq_ok, hp']⟩
        · next h => exact ⟨p.after ch, by simp [literalStep, h, map_eq_ok]⟩

theorem loop_literalStep (cs read : List Char) {n : Nat} (h : cs.length < n) (p : Place) :
    ∃ p', loop literalStep n read ⟨cs.flatMap escaped ++ '"' :: w, p⟩ =
      .ok (String.ofList (read.reverse ++ cs), ⟨w, p'⟩) := by
  induction cs generalizing n read p with
  | nil =>
    obtain ⟨m, rfl⟩ := Nat.exists_eq_succ_of_ne_zero (Nat.ne_of_gt h)
    exact ⟨_, by simp [loop, literalStep]; rfl⟩
  | cons ch cs ih =>
    obtain ⟨m, rfl⟩ := Nat.exists_eq_succ_of_ne_zero (Nat.ne_zero_of_lt h)
    obtain ⟨p₁, hp₁⟩ :=
      @literalStep_escaped (cs.flatMap escaped ++ '"' :: w) read ch p
    obtain ⟨p', hp'⟩ := ih (ch :: read) (Nat.lt_of_succ_lt_succ h) p₁
    refine ⟨p', ?_⟩
    rw [List.flatMap_cons, List.append_assoc, loop, bind_of_ok hp₁]
    simpa using hp'

theorem length_le_length_flatMap_escaped (cs : List Char) :
    cs.length ≤ (cs.flatMap escaped).length := by
  induction cs with
  | nil => exact Nat.le_refl 0
  | cons ch cs ih =>
    have hch : 1 ≤ (escaped ch).length := by
      unfold escaped
      split <;> (repeat' split) <;> simp
    rw [List.flatMap_cons, List.length_append, List.length_cons]
    omega

/-- The literal of a text, whatever follows it. -/
theorem literal_writeText (s : String) (p : Place) :
    ∃ p', literal ⟨s.toList.flatMap escaped ++ '"' :: w, p⟩ = .ok (s, ⟨w, p'⟩) := by
  have hlen : s.toList.length < (s.toList.flatMap escaped ++ '"' :: w).length + 1 := by
    rw [List.length_append]
    have := length_le_length_flatMap_escaped s.toList
    omega
  obtain ⟨p', hp'⟩ := @loop_literalStep w s.toList [] _ hlen p
  rw [List.reverse_nil, List.nil_append, String.ofList_toList] at hp'
  exact ⟨p', hp'⟩

end SuggestionReview.Json.Reader
