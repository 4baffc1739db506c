import SuggestionReview.Basic
import SuggestionReview.Text.Fill
import SuggestionReview.Text.Grapheme
import SuggestionReview.Text.Basic

namespace SuggestionReview.Text

/-- Whether a character takes a column for itself and is part of a word. -/
structure PlainChar (c : Char) : Prop where
  column : charWidth? c = some 1
  alone : GraphemeClass.of c = .other
  unlinked : ConjunctClass.of c ≠ .consonant
  solid : isWhiteSpace c = false
  notHyphen : c ≠ '-'
  notSoftHyphen : c ≠ Fill.softHyphen

instance (c : Char) : Decidable (PlainChar c) :=
  decidable_of_iff
    (charWidth? c = some 1 ∧ GraphemeClass.of c = .other ∧ ConjunctClass.of c ≠ .consonant ∧
      isWhiteSpace c = false ∧ c ≠ '-' ∧ c ≠ Fill.softHyphen)
    ⟨fun ⟨column, alone, unlinked, solid, hyphen, soft⟩ ↦ ⟨column, alone, unlinked, solid, hyphen, soft⟩,
      fun ⟨column, alone, unlinked, solid, hyphen, soft⟩ ↦ ⟨column, alone, unlinked, solid, hyphen, soft⟩⟩

def spaced : List (List Char) → List Char
  | [] => []
  | [word] => word
  | word :: next :: rest => word ++ ' ' :: spaced (next :: rest)

structure PlainLine (words : List (List Char)) : Prop where
  nonempty : words ≠ []
  word_nonempty : ∀ word ∈ words, word ≠ []
  chars : ∀ word ∈ words, ∀ c ∈ word, PlainChar c
  /-- Before its end, the line may be broken behind its blanks only. -/
  ends : ((breaks (spaced words)).map (·.2)).dropLast = (spaced words).dropLast.map (· == ' ')

namespace PlainChar

variable {c : Char}

theorem ne_blank (h : PlainChar c) : c ≠ ' ' := by
  rintro rfl
  exact absurd h.solid (by decide)

theorem ne_lineFeed (h : PlainChar c) : c ≠ '\n' := by
  rintro rfl
  exact absurd h.solid (by decide)

theorem ne_return (h : PlainChar c) : c ≠ '\r' := by
  rintro rfl
  exact absurd h.solid (by decide)

theorem ne_escape (h : PlainChar c) : c ≠ EscapeState.escape := by
  rintro rfl
  exact absurd h.column (by decide)

theorem loneWidth_eq (h : PlainChar c) : loneWidth c = 1 := by
  rw [loneWidth, h.column]
  rfl

end PlainChar

theorem exists_breaksFrom_concat (s : LineBreakState) (cs : List Char) (c : Char)
    (units : List LineBreakUnit) : ∃ xs, breaksFrom s (cs ++ [c]) units = xs ++ [(c, true)] ∧
      xs.map (·.1) = cs := by
  induction cs generalizing s units with
  | nil => exact ⟨[], rfl, rfl⟩
  | cons d cs ih =>
    have hall : ∃ xs, (d :: cs ++ [c]).map (·, true) = xs ++ [(c, true)] ∧ xs.map (·.1) = d :: cs :=
      ⟨(d :: cs).map (·, true), by simp, by simp [Function.comp_def]⟩
    obtain ⟨e, rest, hrest⟩ := List.exists_cons_of_ne_nil (l := cs ++ [c]) (by simp)
    rw [List.cons_append, hrest] at hall ⊢
    rcases units with - | ⟨a, - | ⟨b, units⟩⟩
    · exact hall
    · exact hall
    · obtain ⟨xs, hxs, hfst⟩ := ih (s.after a) (b :: units)
      rw [hrest] at hxs
      rw [breaksFrom, hxs]
      exact ⟨_ :: xs, rfl, congrArg (d :: ·) hfst⟩

namespace Fill

theorem dropLast_concat (xs : List (Char × Bool)) (c : Char) :
    dropLast (xs ++ [(c, true)]) = (xs ++ [(c, false)], true) := by
  induction xs with
  | nil => rfl
  | cons x xs ih => rw [List.cons_append, dropLast, ih, List.cons_append]

/-- Words end at the blanks of a text that may be broken there only. -/
theorem wordEnds_eq {cs : List Char} {c : Char} (hhyphen : ∀ d ∈ cs ++ [c], d ≠ '-' ∧ d ≠ softHyphen)
    (hc : c ≠ ' ')
    (hends : ((breaks (cs ++ [c])).map (·.2)).dropLast = cs.map (· == ' ')) :
    wordEnds (cs ++ [c]) = (cs ++ [c]).map (· == ' ') := by
  obtain ⟨xs, hbreaks, hxs⟩ := exists_breaksFrom_concat .start cs c (lineBreakUnits false (cs ++ [c]))
  rw [← breaks] at hbreaks
  have hallowed : (breaks (cs ++ [c])).map (fun p ↦
      (p.1, p.2 && p.1 ≠ '-' && p.1 ≠ softHyphen)) = breaks (cs ++ [c]) := by
    refine (List.map_congr_left fun p hp ↦ ?_).trans (List.map_id _)
    have hp : p.1 ∈ (breaks (cs ++ [c])).map (·.1) := List.mem_map_of_mem hp
    rw [hbreaks, List.map_append, hxs] at hp
    obtain ⟨hhyphen, hsoft⟩ := hhyphen p.1 hp
    simp [hhyphen, hsoft]
  have hends : xs.map (·.2) = cs.map (· == ' ') := by simpa [hbreaks] using hends
  calc wordEnds (cs ++ [c])
      = (dropLast (breaks (cs ++ [c]))).1.map (·.2) :=
        congrArg (fun allowed ↦ (dropLast allowed).1.map Prod.snd) hallowed
    _ = (cs ++ [c]).map (· == ' ') := by
        rw [hbreaks, dropLast_concat]
        simp [hends, hc]

def blanked : List (List Char) → List (List Char)
  | [] => []
  | [word] => [word]
  | word :: next :: rest => (word ++ [' ']) :: blanked (next :: rest)

theorem cut_word {word : List Char} (hword : ' ' ∉ word) (opened rest : List Char) :
    cut opened ((word ++ rest).map (·, true)) ((word ++ rest).map (· == ' ')) =
      cut (word.reverse ++ opened) (rest.map (·, true)) (rest.map (· == ' ')) := by
  induction word generalizing opened with
  | nil => rfl
  | cons c word ih =>
    obtain ⟨hc, hword⟩ := not_or.1 (mt List.mem_cons.2 hword)
    have hsolid : (c == ' ') = false := beq_false_of_ne (Ne.symm hc)
    rw [List.cons_append, List.map_cons, List.map_cons, hsolid, cut, ih hword]
    simp

theorem cut_spaced {words : List (List Char)} (hne : ∀ word ∈ words, word ≠ [])
    (hblank : ∀ word ∈ words, ' ' ∉ word) :
    cut [] ((spaced words).map (·, true)) ((spaced words).map (· == ' ')) = blanked words := by
  induction words using spaced.induct with
  | case1 => rfl
  | case2 word =>
    have hword := hne word List.mem_cons_self
    have hcut := cut_word (hblank word List.mem_cons_self) [] []
    rw [List.append_nil] at hcut
    rw [spaced, hcut, blanked]
    simp [cut, hword]
  | case3 word next rest ih =>
    obtain ⟨-, hne⟩ := List.forall_mem_cons.1 hne
    obtain ⟨hword, hblank⟩ := List.forall_mem_cons.1 hblank
    rw [spaced, cut_word hword, blanked, ← ih hne hblank]
    simp [cut]

end Fill

theorem marked_eq {cs : List Char} (h : ∀ c ∈ cs, c ≠ EscapeState.escape) :
    marked .outside cs = cs.map (·, true) := by
  induction cs with
  | nil => rfl
  | cons c cs ih =>
    obtain ⟨hc, hcs⟩ := List.forall_mem_cons.1 h
    have hafter : EscapeState.after .outside c = .outside := if_neg hc
    rw [marked, hafter, ih hcs]
    simp [hc]

namespace PlainLine

variable {words : List (List Char)}

theorem mem_spaced {words : List (List Char)} {c : Char} (hc : c ∈ spaced words) :
    c = ' ' ∨ ∃ word ∈ words, c ∈ word := by
  induction words using spaced.induct with
  | case1 => exact absurd hc List.not_mem_nil
  | case2 word => exact .inr ⟨word, List.mem_cons_self, hc⟩
  | case3 word next rest ih =>
    rw [spaced, List.mem_append, List.mem_cons] at hc
    rcases hc with hc | rfl | hc
    · exact .inr ⟨word, List.mem_cons_self, hc⟩
    · exact .inl rfl
    · refine (ih hc).imp_right ?_
      rintro ⟨word', hword', hc⟩
      exact ⟨word', List.mem_cons_of_mem _ hword', hc⟩

theorem forall_mem (h : PlainLine words) {P : Char → Prop} (hblank : P ' ')
    (hplain : ∀ c, PlainChar c → P c) : ∀ c ∈ spaced words, P c := by
  intro c hc
  rcases mem_spaced hc with rfl | ⟨word, hword, hc⟩
  · exact hblank
  · exact hplain c (h.chars word hword c hc)

theorem exists_concat (h : PlainLine words) : ∃ cs c, spaced words = cs ++ [c] ∧ PlainChar c := by
  obtain ⟨hne, hword, hchars, -⟩ := h
  induction words using spaced.induct with
  | case1 => exact absurd rfl hne
  | case2 word =>
    obtain ⟨cs, c, rfl⟩ := (List.eq_nil_or_concat word).resolve_left (hword word List.mem_cons_self)
    rw [List.concat_eq_append] at hchars ⊢
    exact ⟨cs, c, rfl, hchars _ List.mem_cons_self c (by simp)⟩
  | case3 word next rest ih =>
    obtain ⟨-, hword⟩ := List.forall_mem_cons.1 hword
    obtain ⟨-, hchars⟩ := List.forall_mem_cons.1 hchars
    obtain ⟨cs, c, hcs, hc⟩ := ih (List.cons_ne_nil next rest) hword hchars
    exact ⟨word ++ ' ' :: cs, c, by rw [spaced, hcs]; simp, hc⟩

theorem words_eq (h : PlainLine words) : Fill.words (spaced words) = Fill.blanked words := by
  have hmarked := marked_eq (h.forall_mem (by decide) fun c hc ↦ hc.ne_escape)
  have hhyphen := h.forall_mem (P := fun d ↦ d ≠ '-' ∧ d ≠ Fill.softHyphen) (by decide)
    fun c hc ↦ ⟨hc.notHyphen, hc.notSoftHyphen⟩
  have hends := h.ends
  have hcut := Fill.cut_spaced h.word_nonempty fun word hword hblank ↦
    (h.chars word hword ' ' hblank).ne_blank rfl
  obtain ⟨cs, c, hline, hc⟩ := h.exists_concat
  have hvisible : (((spaced words).map (·, true)).filter (·.2)).map (·.1) = spaced words := by
    simp [List.filter_map, Function.comp_def]
  rw [hline] at hhyphen
  rw [hline, List.dropLast_concat] at hends
  rw [Fill.words]
  simp only [hmarked, hvisible]
  rw [← hcut, hline, Fill.wordEnds_eq hhyphen hc.ne_blank hends]

end PlainLine

namespace Fill

variable {limit : Nat} {word : List Char}

theorem hyphenPieces_eq (h : ∀ c ∈ word, c ≠ '-') (opened : List Char) :
    hyphenPieces opened word = [opened.reverse ++ word] := by
  induction word generalizing opened with
  | nil => simp [hyphenPieces]
  | cons c word ih =>
    obtain ⟨hc, hword⟩ := List.forall_mem_cons.1 h
    rw [hyphenPieces]
    simp [hc, ih hword]

theorem brokenWidths_of_le (h : ∀ c ∈ word, PlainChar c) {opened : Nat}
    (hroom : opened + word.length ≤ limit) :
    brokenWidths limit opened (word.map (·, true)) = [opened + word.length] := by
  induction word generalizing opened with
  | nil => rfl
  | cons c word ih =>
    obtain ⟨hc, hword⟩ := List.forall_mem_cons.1 h
    rw [List.length_cons] at hroom
    have hfits : ¬limit < opened + 1 := by omega
    rw [List.map_cons, brokenWidths]
    simp only [hc.loneWidth_eq, if_true, hfits, decide_false, Bool.and_false, Bool.false_eq_true,
      if_false]
    rw [ih hword (by omega), List.length_cons, Nat.add_assoc, Nat.add_comm 1]

theorem displayWidth_eq (h : ∀ c ∈ word, PlainChar c) : displayWidth word = word.length := by
  have hmarked := marked_eq fun c hc ↦ (h c hc).ne_escape
  rw [displayWidth, hmarked]
  clear hmarked
  induction word with
  | nil => rfl
  | cons c word ih =>
    obtain ⟨hc, hword⟩ := List.forall_mem_cons.1 h
    rw [List.map_cons, total_cons, ih hword, List.length_cons, Nat.add_comm]
    exact congrArg (word.length + ·) hc.loneWidth_eq

/-- A word is broken where it is too long, and takes its blanks along. -/
theorem wordFragments_eq (hne : word ≠ []) (h : ∀ c ∈ word, PlainChar c) (blanks : Nat) :
    wordFragments limit (word ++ .replicate blanks ' ') =
      withBlanks blanks (brokenWidths limit 0 (word.map (·, true))) := by
  have htext : ((word ++ .replicate blanks ' ').reverse.dropWhile (· = ' ')).reverse = word := by
    obtain ⟨cs, c, rfl⟩ := (List.eq_nil_or_concat word).resolve_left hne
    have hc : c ≠ ' ' := (h c (by simp)).ne_blank
    rw [List.concat_eq_append, List.reverse_append, List.reverse_replicate,
      List.dropWhile_append_of_pos (by simp)]
    simp [hc]
  have hpieces := hyphenPieces_eq (fun c hc ↦ (h c hc).notHyphen) []
  have hmarked := marked_eq fun c hc ↦ (h c hc).ne_escape
  have hblanks : (word ++ .replicate blanks ' ').length - word.length = blanks := by simp
  rw [wordFragments]
  simp only [htext, hpieces, hblanks, List.reverse_nil, List.nil_append, List.flatMap_singleton,
    displayWidth_eq h, hmarked]
  split
  · rfl
  · next hfits =>
    rw [brokenWidths_of_le h (by omega), Nat.zero_add]

theorem wordFragments_of_le (hne : word ≠ []) (h : ∀ c ∈ word, PlainChar c) (blanks : Nat)
    (hroom : word.length ≤ limit) :
    wordFragments limit (word ++ .replicate blanks ' ') = [⟨word.length, blanks⟩] := by
  rw [wordFragments_eq hne h, brokenWidths_of_le h (by omega), Nat.zero_add]
  rfl

theorem brokenWidths_ne_nil (limit opened : Nat) (cs : List (Char × Bool)) :
    brokenWidths limit opened cs ≠ [] := by
  induction cs generalizing opened with
  | nil => exact List.cons_ne_nil opened []
  | cons p cs ih =>
    obtain ⟨c, visible⟩ := p
    simp only [brokenWidths]
    generalize (if visible = true then loneWidth c else 0) = w
    split
    · exact List.cons_ne_nil _ _
    · exact ih _

theorem withBlanks_cons {blanks w : Nat} {widths : List Nat} (h : widths ≠ []) :
    withBlanks blanks (w :: widths) = ⟨w, 0⟩ :: withBlanks blanks widths := by
  cases widths with
  | nil => exact absurd rfl h
  | cons => rfl

end Fill

end SuggestionReview.Text
