import SuggestionReview.Proofs.Screen.Wrap
import SuggestionReview.Proofs.Text.LineBreak
import SuggestionReview.Proofs.Text.Lines
import SuggestionReview.Screen.Paragraph

namespace SuggestionReview.Text

def charGlyph (c : Char) : Glyph := ⟨.singleton c, .plain, width (.singleton c)⟩

theorem PlainChar.width_singleton {c : Char} (h : PlainChar c) : width (.singleton c) = 1 := by
  have hwidth : charWidth c = 1 := by
    rw [charWidth, h.column]
    rfl
  have hbefore : (WidthContext.before c .start).1 = 1 := by
    simp only [WidthContext.before, WidthContext.start, WidthContext.withoutColor, Bool.false_and,
      Bool.false_eq_true, if_false, reduceCtorEq, decide_false, Bool.and_false, if_true]
    split
    · rfl
    · exact congrArg Nat.cast hwidth
  simp [width, hbefore]

theorem PlainChar.solid_charGlyph {c : Char} (h : PlainChar c) : (charGlyph c).Solid := by
  refine ⟨?_, h.width_singleton⟩
  have hjoinless : c ≠ Char.ofNat 0x200B := by
    rintro rfl
    exact absurd h.column (by decide +kernel)
  have hsymbol : String.singleton c ≠ "\u200B" := fun heq ↦
    hjoinless (by simpa using congrArg String.toList heq)
  simp [charGlyph, Glyph.isBlank, hsymbol, h.solid]

theorem space_charGlyph : (charGlyph ' ').Space := ⟨by decide, by decide⟩

theorem linesFrom_eq {cs : List Char} (h : '\n' ∉ cs) (opened : List Char) :
    linesFrom opened cs = if (opened.reverse ++ cs).isEmpty then [] else [opened.reverse ++ cs] := by
  induction cs generalizing opened with
  | nil => simp [linesFrom]
  | cons c cs ih =>
    obtain ⟨hc, hcs⟩ := not_or.1 (mt List.mem_cons.2 h)
    rw [linesFrom, if_neg (Ne.symm hc), ih hcs]
    simp

theorem graphemesFrom_eq {cs : List Char} (halone : ∀ c ∈ cs, GraphemeClass.of c = .other)
    (hunlinked : ∀ c ∈ cs, ConjunctClass.of c ≠ .consonant) {state : GraphemeState}
    (hstate : state.last = .other) (opened : List Char) :
    graphemesFrom state opened cs = opened.reverse :: cs.map ([·]) := by
  induction cs generalizing state opened with
  | nil => rfl
  | cons c cs ih =>
    obtain ⟨hc, halone⟩ := List.forall_mem_cons.1 halone
    obtain ⟨hlink, hunlinked⟩ := List.forall_mem_cons.1 hunlinked
    have hjoins : state.joins c = false := by
      simp [GraphemeState.joins, hstate, hc, hlink]
    rw [graphemesFrom, hjoins, if_neg Bool.false_ne_true, ih halone hunlinked hc]
    rfl

theorem graphemes_eq {cs : List Char} (halone : ∀ c ∈ cs, GraphemeClass.of c = .other)
    (hunlinked : ∀ c ∈ cs, ConjunctClass.of c ≠ .consonant) :
    graphemes (.ofList cs) = cs.map .singleton := by
  rw [graphemes, String.toList_ofList]
  cases cs with
  | nil => rfl
  | cons c cs =>
    obtain ⟨hc, halone⟩ := List.forall_mem_cons.1 halone
    obtain ⟨-, hunlinked⟩ := List.forall_mem_cons.1 hunlinked
    have hstate : (GraphemeState.start.after c).last = .other := hc
    have hpieces := graphemesFrom_eq halone hunlinked hstate [c]
    simp only [hpieces, List.reverse_singleton, List.map_cons, List.map_map, Function.comp_def,
      ← String.singleton_eq_ofList]

theorem PlainLine.glyphs_ofText {words : List (List Char)} (h : PlainLine words) :
    StyledLine.glyphs (.ofText (.ofList (spaced words))) = (spaced words).map charGlyph := by
  have hlineFeed : '\n' ∉ spaced words := fun hmem ↦
    h.forall_mem (P := (· ≠ '\n')) (by decide) (fun _ hc ↦ hc.ne_lineFeed) _ hmem rfl
  have hgraphemes : graphemes (.ofList (spaced words)) = (spaced words).map .singleton :=
    graphemes_eq (h.forall_mem (by decide +kernel) fun _ hc ↦ hc.alone)
      (h.forall_mem (by decide +kernel) fun _ hc ↦ hc.unlinked)
  obtain ⟨cs, c, hline, -⟩ := h.exists_concat
  have hne : spaced words ≠ [] := by simp [hline]
  have hlines : lines (.ofList (spaced words)) = [.ofList (spaced words)] := by
    rw [lines, String.toList_ofList, linesFrom_eq hlineFeed]
    simp [hne]
  have hkept : ((spaced words).map String.singleton).filter (· ≠ "\n") =
      (spaced words).map .singleton := by
    refine List.filter_eq_self.2 (List.forall_mem_map.2 fun d hd ↦ ?_)
    have hd : d ≠ '\n' := fun heq ↦ hlineFeed (heq ▸ hd)
    have hsymbol : String.singleton d ≠ "\n" := fun heq ↦
      hd (by simpa using congrArg String.toList heq)
    simpa using hsymbol
  simp only [StyledLine.ofText, hlines, StyledLine.glyphs, List.map_singleton, List.flatMap_singleton,
    Span.plain, Span.glyphs, hgraphemes, hkept, List.map_map]
  rfl

open Wrap (Piece Pieces)

/-- The parts of a word come in front of whatever its last part can come in front of. -/
theorem Fill.pieces_brokenWidths {limit blanks : Nat} {word : List Char} {opened rest : List Glyph}
    {fs : List Fragment} (hopened : Piece limit opened) (h : ∀ c ∈ word, PlainChar c)
    (hrest : ∀ gs, Piece limit gs → Pieces limit (⟨gs.length, blanks⟩ :: fs) (gs ++ rest)) :
    Pieces limit (withBlanks blanks (brokenWidths limit opened.length (word.map (·, true))) ++ fs)
      (opened ++ word.map charGlyph ++ rest) := by
  induction word generalizing opened with
  | nil => simpa [Fill.brokenWidths, Fill.withBlanks] using hrest opened hopened
  | cons c word ih =>
    obtain ⟨hc, hword⟩ := List.forall_mem_cons.1 h
    obtain ⟨hvisible, hlength, hsolid⟩ := hopened
    have hpos : 0 < opened.length := hvisible
    rw [List.map_cons, brokenWidths]
    simp only [hc.loneWidth_eq, if_true, hpos, decide_true, Bool.true_and, decide_eq_true_eq]
    split
    · next hfull =>
      have hnew : Piece limit [charGlyph c] :=
        ⟨Nat.le_refl 1, by rw [List.length_singleton]; omega,
          List.forall_mem_singleton.2 hc.solid_charGlyph⟩
      have hmore := ih hnew hword
      rw [withBlanks_cons (brokenWidths_ne_nil _ _ _)]
      rw [List.length_singleton] at hmore
      simpa using Pieces.broken ⟨hvisible, hlength, hsolid⟩ (by omega) hmore
    · next hroom =>
      have hlonger : Piece limit (opened ++ [charGlyph c]) := by
        refine ⟨by simp, by simpa using Nat.le_of_not_lt hroom, ?_⟩
        exact List.forall_mem_append.2 ⟨hsolid, List.forall_mem_singleton.2 hc.solid_charGlyph⟩
      simpa using ih hlonger hword

theorem Fill.pieces_wordFragments {limit : Nat} {word : List Char} {rest : List Glyph}
    {fs : List Fragment} (hlimit : 1 ≤ limit) (hne : word ≠ []) (h : ∀ c ∈ word, PlainChar c)
    (blanks : Nat)
    (hrest : ∀ gs, Piece limit gs → Pieces limit (⟨gs.length, blanks⟩ :: fs) (gs ++ rest)) :
    Pieces limit (wordFragments limit (word ++ .replicate blanks ' ') ++ fs)
      (word.map charGlyph ++ rest) := by
  rw [wordFragments_eq hne h]
  cases word with
  | nil => exact absurd rfl hne
  | cons c word =>
    obtain ⟨hc, hword⟩ := List.forall_mem_cons.1 h
    have hfirst : Piece limit [charGlyph c] :=
      ⟨Nat.le_refl 1, hlimit, List.forall_mem_singleton.2 hc.solid_charGlyph⟩
    have hopen : brokenWidths limit 0 ((c :: word).map (·, true)) =
        brokenWidths limit [charGlyph c].length (word.map (·, true)) := by
      rw [List.map_cons, brokenWidths]
      simp [hc.loneWidth_eq]
    rw [hopen]
    exact pieces_brokenWidths hfirst hword hrest

namespace PlainLine

variable {limit : Nat} {words : List (List Char)}

theorem pieces (h : PlainLine words) (hlimit : 1 ≤ limit) :
    Pieces limit (Fill.fragments limit (spaced words)) ((spaced words).map charGlyph) := by
  rw [Fill.fragments, h.words_eq]
  obtain ⟨hne, hword, hchars, -⟩ := h
  induction words using spaced.induct with
  | case1 => exact absurd rfl hne
  | case2 word =>
    have hlast : ∀ gs, Piece limit gs → Pieces limit (⟨gs.length, 0⟩ :: []) (gs ++ []) := fun gs hgs ↦ by
      simpa using Pieces.last hgs
    have hpieces := Fill.pieces_wordFragments hlimit (hword word List.mem_cons_self)
      (hchars word List.mem_cons_self) 0 hlast
    simpa [Fill.blanked, spaced] using hpieces
  | case3 word next rest ih =>
    obtain ⟨hword, hwords⟩ := List.forall_mem_cons.1 hword
    obtain ⟨hplain, hchars⟩ := List.forall_mem_cons.1 hchars
    have hrest := ih (List.cons_ne_nil next rest) hwords hchars
    have hpieces := Fill.pieces_wordFragments hlimit hword hplain 1
      fun gs hgs ↦ Pieces.spaced hgs space_charGlyph hrest
    simpa [Fill.blanked, spaced] using hpieces

theorem width_charGlyph (h : PlainLine words) : ∀ g ∈ (spaced words).map charGlyph, g.width = 1 :=
  List.forall_mem_map.2 (h.forall_mem space_charGlyph.width fun _ hc ↦ hc.width_singleton)

theorem columns_charGlyph (h : PlainLine words) :
    Wrap.columns ((spaced words).map charGlyph) = (spaced words).length := by
  have hwidth := h.width_charGlyph
  rw [← List.length_map (f := charGlyph)]
  generalize (spaced words).map charGlyph = gs at hwidth
  induction gs with
  | nil => rfl
  | cons g gs ih =>
    obtain ⟨hg, hwidth⟩ := List.forall_mem_cons.1 hwidth
    rw [Wrap.columns, total_cons, hg, List.length_cons, Nat.add_comm]
    exact congrArg (· + 1) (ih hwidth)

end PlainLine

theorem length_le_total_utf8Size (cs : List Char) : cs.length ≤ total (·.utf8Size) cs := by
  induction cs with
  | nil => exact Nat.le_refl 0
  | cons c cs ih =>
    have hc := c.utf8Size_pos
    rw [List.length_cons, total_cons]
    omega

/-- On a screen of at most 39 columns a plain line takes no more lines than it is given. -/
theorem PlainLine.length_wrap_le {limit : Nat} {words : List (List Char)} (h : PlainLine words)
    (hlimit : 1 ≤ limit) (hnarrow : limit ≤ 39) :
    (Wrap.wrap limit true ((spaced words).map charGlyph)).length ≤
      Fill.lineRows limit (spaced words) := by
  rw [Fill.lineRows]
  split
  · next hshort =>
    have hcolumns := h.columns_charGlyph
    have hbytes := length_le_total_utf8Size (spaced words)
    have hvisible := fun g hg ↦ Nat.le_of_eq (h.width_charGlyph g hg).symm
    exact Nat.le_of_eq (Wrap.length_wrap_of_columns_le hvisible (by omega))
  · have hpieces := h.pieces hlimit
    rw [hpieces.length_wrap]
    exact Fill.lines_greedy_le_lineCount hnarrow hpieces.fits

def shortLong (limit : Nat) : List (List Char) := [['a'], .replicate (limit - 1) 'a']

theorem plainLine_shortLong {limit : Nat} (hlimit : 2 ≤ limit) : PlainLine (shortLong limit) := by
  have hplain : PlainChar 'a' := by
    constructor <;> decide +kernel
  have hchar : IsWordChar 'a' := by
    constructor <;> decide +kernel
  have hbegin : LineBreakClass.of 'a' ≠ .infixSeparator := by
    decide +kernel
  have hall : ∀ word ∈ shortLong limit, ∀ c ∈ word, c = 'a' := by
    simp [shortLong]
  have hne : ∀ word ∈ shortLong limit, word ≠ [] := by
    have hlong : limit - 1 ≠ 0 := by omega
    simp [shortLong, hlong]
  have hlettered : Lettered (shortLong limit) :=
    ⟨hne, fun word hword c hc ↦ hall word hword c hc ▸ hchar,
      fun word hword c hc ↦ hall word hword c (List.mem_of_mem_head? hc) ▸ hbegin⟩
  exact hlettered.plainLine (List.cons_ne_nil _ _)
    fun word hword c hc ↦ hall word hword c hc ▸ hplain

theorem fragments_shortLong {limit : Nat} (hlimit : 2 ≤ limit) :
    Fill.fragments limit (spaced (shortLong limit)) = [⟨1, 1⟩, ⟨limit - 1, 0⟩] := by
  have hplain := plainLine_shortLong hlimit
  obtain ⟨hshortWord, hlongWord⟩ := List.forall_mem_cons.1 hplain.word_nonempty
  obtain ⟨hshortChars, hlongChars⟩ := List.forall_mem_cons.1 hplain.chars
  have hroom : 1 ≤ limit := by omega
  have hshort : Fill.wordFragments limit ['a', ' '] = [⟨1, 1⟩] :=
    Fill.wordFragments_of_le hshortWord hshortChars 1 hroom
  have hlong : Fill.wordFragments limit (.replicate (limit - 1) 'a') = [⟨limit - 1, 0⟩] := by
    have hroom : (List.replicate (limit - 1) 'a').length ≤ limit := by
      rw [List.length_replicate]
      exact Nat.sub_le limit 1
    simpa using Fill.wordFragments_of_le (hlongWord _ List.mem_cons_self)
      (hlongChars _ List.mem_cons_self) 0 hroom
  rw [Fill.fragments, hplain.words_eq]
  simp [shortLong, Fill.blanked, hshort, hlong]

/-- Plain lines take no more lines than they are given on all screens of at most 39 columns, and on
no others. -/
theorem forall_length_wrap_le_iff {limit : Nat} (hlimit : 1 ≤ limit) :
    (∀ words, PlainLine words → (Wrap.wrap limit true ((spaced words).map charGlyph)).length ≤
      Fill.lineRows limit (spaced words)) ↔ limit ≤ 39 := by
  refine ⟨fun h ↦ ?_, fun hnarrow words h ↦ h.length_wrap_le hlimit hnarrow⟩
  by_contra hwide
  have hlimit : 2 ≤ limit := by omega
  have hplain := plainLine_shortLong hlimit
  have hwide : 40 ≤ limit := by omega
  have hle := h _ hplain
  have hbytes := length_le_total_utf8Size (spaced (shortLong limit))
  have hlength : (spaced (shortLong limit)).length = limit + 1 := by
    simp [shortLong, spaced]
    omega
  rw [(hplain.pieces (by omega)).length_wrap, fragments_shortLong hlimit,
    Fill.lines_greedy_wide hlimit, Fill.lineRows, if_neg (by omega), fragments_shortLong hlimit,
    Fill.lineCount_wide hwide] at hle
  omega

def laidOut (columns : Nat) (s : String) : List (List Glyph) :=
  (plainLines s).flatMap fun l ↦ Wrap.wrap columns true (StyledLine.glyphs l)

structure Short (limit : Nat) (line : List Char) : Prop where
  unreturned : '\r' ∉ line
  visible : ∀ g ∈ StyledLine.glyphs (.ofText (.ofList line)), 1 ≤ g.width
  columns_le : Wrap.columns (StyledLine.glyphs (.ofText (.ofList line))) ≤ limit

/-- Whether a line fits on the screen, or is a plain one on a narrow screen. -/
def Tame (limit : Nat) (line : List Char) : Prop :=
  Short limit line ∨ limit ≤ 39 ∧ ∃ words, line = spaced words ∧ PlainLine words

theorem one_le_lineRows (limit : Nat) (line : List Char) : 1 ≤ Fill.lineRows limit line := by
  rw [Fill.lineRows, Fill.lineCount]
  split
  · exact Nat.le_refl 1
  · split
    · exact Nat.le_max_right _ _
    · exact Nat.le_refl 1

theorem Tame.length_wrap_le {limit : Nat} {line : List Char} (h : Tame limit line) (hlimit : 1 ≤ limit) :
    (Wrap.wrap limit true (StyledLine.glyphs (.ofText (.ofList line)))).length ≤
      Fill.lineRows limit line := by
  rcases h with h | ⟨hnarrow, words, rfl, h⟩
  · rw [Wrap.length_wrap_of_columns_le h.visible h.columns_le]
    exact one_le_lineRows limit line
  · rw [h.glyphs_ofText]
    exact h.length_wrap_le hlimit hnarrow

theorem Tame.unreturned {limit : Nat} {line : List Char} (h : Tame limit line) : '\r' ∉ line := by
  rcases h with h | ⟨-, words, rfl, h⟩
  · exact h.unreturned
  · exact fun hmem ↦ h.forall_mem (P := (· ≠ '\r')) (by decide) (fun _ hc ↦ hc.ne_return) _ hmem rfl

/-- A text whose lines all are tame is laid out on no more lines than it is given. -/
theorem length_laidOut_le {limit : Nat} {s : String} (hlimit : 1 ≤ limit)
    (h : ∀ line ∈ splitLines s.toList, Tame limit line) :
    (laidOut limit s).length ≤ filledRows limit s := by
  rw [laidOut, length_flatMap_eq_total, filledRows, Nat.max_eq_left hlimit, plainLines]
  split
  · next hempty =>
    obtain rfl := String.isEmpty_iff.1 hempty
    exact Nat.add_le_add_right (one_le_lineRows limit []) 0
  · have hopening := opening_nil (splitLines_ne_nil s.toList)
    have hbegins : linesFrom [] s.toList <+: splitLines s.toList := by
      rw [← hopening] at h ⊢
      exact linesFrom_begins fun line hline ↦ (h line hline).unreturned
    rw [lines, List.map_map, total_map]
    refine Nat.le_trans (total_le_total fun line hline ↦ ?_) (total_le_of_sublist hbegins.sublist)
    exact (h line (hbegins.mem hline)).length_wrap_le hlimit

end SuggestionReview.Text
